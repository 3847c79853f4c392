import UiSchema.Proofs.Form.Addressing

/-!
# Adding and removing rows

A compiled form changes by rows that are added to and removed from the repeat groups found by their
full names. Over any such edits every field stays addressed by its position, and each edit is local:
it changes the rows of the group it names, if there is one, and nothing around that group.
-/

namespace UiSchema

set_option autoImplicit false

open CompiledField

namespace RepeatGroup

variable {g new : RepeatGroup CompiledField} {index : Nat}

theorem add_eq_ok : g.add = .ok (index, new) ↔
    ∃ row, FieldSchema.compile g.itemFields (g.path.row g.rows.length) .blank = .ok row ∧
      index = g.rows.length ∧ new = { g with rows := g.rows ++ [row] } := by
  unfold add
  simp only [bind_eq_ok, Except.ok.injEq, Prod.mk.injEq]
  constructor
  · rintro ⟨row, hrow, rfl, rfl⟩
    exact ⟨row, hrow, rfl, rfl⟩
  · rintro ⟨row, hrow, rfl, rfl⟩
    exact ⟨row, hrow, rfl, rfl⟩

theorem remove_of_lt (h : index < g.rows.length) :
    g.remove index = (true, { g with
      rows := g.rows.take index ++ renumber g.path.length index (g.rows.drop (index + 1)) }) :=
  if_pos h

theorem remove_of_le (h : g.rows.length ≤ index) : g.remove index = (false, g) :=
  if_neg (Nat.not_lt.mpr h)

/-- Removing changes rows only, whether or not there is a row at the index. -/
theorem remove_rows (g : RepeatGroup CompiledField) (index : Nat) :
    ∃ rows, (g.remove index).2 = { g with rows := rows } := by
  by_cases h : index < g.rows.length
  · exact ⟨_, by rw [remove_of_lt h]⟩
  · exact ⟨g.rows, by rw [remove_of_le (Nat.not_lt.mp h)]⟩

theorem addressed_add (h : g.add = .ok (index, new)) {parent : FieldPath}
    (hg : Addressed parent (.repeated g)) : Addressed parent (.repeated new) := by
  obtain ⟨row, hrow, rfl, rfl⟩ := add_eq_ok.mp h
  refine .repeated hg.path_eq (fun i r hi => ?_)
  rw [List.getElem?_append] at hi
  split at hi
  · exact hg.repeated_rows hi
  · rename_i hge
    rw [List.getElem?_singleton] at hi
    split at hi
    · cases hi
      rw [show i = g.rows.length by omega]
      exact FieldSchema.addressed_of_compile hrow
    · cases hi

theorem addressed_remove (index : Nat) {parent : FieldPath}
    (hg : Addressed parent (.repeated g)) :
    Addressed parent (.repeated (g.remove index).2) := by
  by_cases hindex : index < g.rows.length
  · rw [remove_of_lt hindex]
    refine .repeated hg.path_eq (fun i r hi => ?_)
    rw [List.getElem?_append] at hi
    split at hi
    · rename_i hlt
      rw [List.getElem?_take_of_lt (by simp only [List.length_take] at hlt; omega)] at hi
      exact hg.repeated_rows hi
    · rename_i hge
      simp only [List.length_take, Nat.min_eq_left (Nat.le_of_lt hindex)] at hge hi
      have hbehind : ∀ (k : Nat) (row : List CompiledField),
          (g.rows.drop (index + 1))[k]? = some row →
            ∀ f ∈ row, Addressed (g.path.row (index + 1 + k)) f := by
        intro k row hk
        rw [List.getElem?_drop] at hk
        exact hg.repeated_rows hk
      have := addressed_renumber index hbehind hi
      rw [show index + (i - index) = i by omega] at this
      exact this
  · rw [remove_of_le (Nat.not_lt.mp hindex)]
    exact hg

/-- The second group is the first one after a row was added to it or a removal was tried. -/
inductive Edited (old : RepeatGroup CompiledField) : RepeatGroup CompiledField → Prop
  | added {index : Nat} {new : RepeatGroup CompiledField} :
      old.add = .ok (index, new) → Edited old new
  | removed (index : Nat) : Edited old (old.remove index).2

theorem addressed_of_edited (h : g.Edited new) {parent : FieldPath}
    (hg : Addressed parent (.repeated g)) : Addressed parent (.repeated new) := by
  cases h with
  | added hadd => exact addressed_add hadd hg
  | removed index => exact addressed_remove index hg

end RepeatGroup

theorem forall_mem_replace {α : Type} {P : α → Prop} {before after : List α} {x y : α}
    (h : ∀ z ∈ before ++ x :: after, P z) (hy : P x → P y) : ∀ z ∈ before ++ y :: after, P z := by
  rw [List.forall_mem_append, List.forall_mem_cons] at h ⊢
  exact ⟨h.1, hy h.2.1, h.2.2⟩

theorem getElem?_replace {α : Type} {above below : List α} {x y z : α} {i : Nat}
    (h : (above ++ y :: below)[i]? = some z) :
    (above ++ x :: below)[i]? = some z ∨ ((above ++ x :: below)[i]? = some x ∧ z = y) := by
  by_cases hi : i = above.length
  · have hat (w : α) : (above ++ w :: below)[above.length]? = some w := by simp
    rw [hi, hat, Option.some.injEq] at h
    rw [hi, hat]
    exact Or.inr ⟨rfl, h.symm⟩
  · refine Or.inl ?_
    rw [← h, List.getElem?_append, List.getElem?_append]
    split
    · rfl
    · rw [List.getElem?_cons, List.getElem?_cons, if_neg (by omega), if_neg (by omega)]

theorem CompiledField.Replaced.addressed {old new : RepeatGroup CompiledField}
    {fields fields' : List CompiledField} (h : Replaced old new fields fields')
    (hnew : ∀ parent, Addressed parent (.repeated old) → Addressed parent (.repeated new))
    {parent : FieldPath} (hfields : ∀ f ∈ fields, Addressed parent f) :
    ∀ f ∈ fields', Addressed parent f := by
  induction h generalizing parent with
  | here before after => exact forall_mem_replace hfields (hnew parent)
  | group before after g _ ih =>
    refine forall_mem_replace hfields (fun hg => ?_)
    exact .group hg.path_eq (ih hg.group_fields)
  | row before after g above below hrows _ ih =>
    refine forall_mem_replace hfields (fun hg => .repeated hg.path_eq (fun i r hi => ?_))
    rcases getElem?_replace hi with hkept | ⟨hrow, rfl⟩
    · exact hg.repeated_rows (hrows ▸ hkept)
    · exact ih (hg.repeated_rows (hrows ▸ hrow))

/-- One edit of a form: a row is added to, or removed from, the repeat group of a full name. -/
inductive RowEdit where
  | add (name : String)
  | remove (name : String) (index : Nat)

def RowEdit.group : RowEdit → String
  | .add name => name
  | .remove name _ => name

namespace CompiledForm

/-- The form after an edit, which may fail or find no group. -/
def edit (form : CompiledForm) : RowEdit → CompiledForm
  | .add name => (form.addRow name).2
  | .remove name index => (form.removeRow name index).2

def edited (form : CompiledForm) (edits : List RowEdit) : CompiledForm := edits.foldl edit form

theorem addRow_cases (form : CompiledForm) (name : String) :
    (form.repeat? name = none ∧ form.addRow name = (none, form)) ∨
    ∃ old, form.repeat? name = some old ∧
      ((∃ e, old.add = .error e ∧ form.addRow name = (some (.error e), form)) ∨
        ∃ index new fields, old.add = .ok (index, new) ∧
          Replaced old new form.fields fields ∧
          form.addRow name = (some (.ok index), { form with fields := fields })) := by
  have hrow := addRow.eq_def form name
  rcases actOnRepeatIn_cases name form.fields RepeatGroup.grow with
    ⟨hlook, hrun⟩ | ⟨old, fields', hlook, _, hrun, hreplaced⟩
  · rw [hrun] at hrow
    exact Or.inl ⟨hlook, hrow⟩
  · rw [hrun] at hrow
    refine Or.inr ⟨old, hlook, ?_⟩
    cases hadd : old.add with
    | error e =>
      have hgrow : old.grow = (.error e, old) := by rw [RepeatGroup.grow, hadd]
      rw [hgrow] at hrow hreplaced
      exact Or.inl ⟨e, rfl, by rw [hrow, hreplaced.eq_of_same]⟩
    | ok answer =>
      obtain ⟨index, new⟩ := answer
      have hgrow : old.grow = (.ok index, new) := by rw [RepeatGroup.grow, hadd]
      rw [hgrow] at hrow hreplaced
      exact Or.inr ⟨index, new, fields', rfl, hreplaced, hrow⟩

theorem removeRow_cases (form : CompiledForm) (name : String) (index : Nat) :
    (form.repeat? name = none ∧ form.removeRow name index = (none, form)) ∨
    ∃ old fields, form.repeat? name = some old ∧
      Replaced old (old.remove index).2 form.fields fields ∧
      form.removeRow name index =
        (some (old.remove index).1, { form with fields := fields }) := by
  unfold removeRow
  rcases actOnRepeatIn_cases name form.fields (fun g => g.remove index) with
    ⟨hlook, hrun⟩ | ⟨old, fields', hlook, _, hrun, hreplaced⟩
  · exact Or.inl ⟨hlook, by rw [hrun]⟩
  · exact Or.inr ⟨old, fields', hlook, hreplaced, by rw [hrun]⟩

/-- An edit of a form stays inside the repeat group that it names. -/
structure EditsLocally (form : CompiledForm) : Prop where
  missing : ∀ edit : RowEdit, form.repeat? edit.group = none → form.edit edit = form
  failed_add : ∀ name e, (form.addRow name).1 = some (.error e) → (form.addRow name).2 = form
  remove_beyond : ∀ name index g, form.repeat? name = some g → g.rows.length ≤ index →
    form.removeRow name index = (some false, form)
  /-- whatever an edit answers, rows of the group found are all that it changes -/
  elsewhere : ∀ (edit : RowEdit) (old : RepeatGroup CompiledField),
    form.repeat? edit.group = some old → old.path.text = edit.group ∧ ∃ rows fields,
      Replaced old { old with rows := rows } form.fields fields ∧
      form.edit edit = { form with fields := fields }

/-- The group found by a name has that name, and stands in the form. -/
theorem found_of_repeat? {form : CompiledForm} {name : String}
    {old : RepeatGroup CompiledField} (h : form.repeat? name = some old) :
    old.path.text = name ∧ Replaced old old form.fields form.fields := by
  rcases actOnRepeatIn_cases name form.fields (fun g => ((), g)) with
    ⟨hlook, _⟩ | ⟨found, fields', hlook, hname, _, hreplaced⟩
  · rw [repeat?, hlook] at h
    cases h
  · rw [repeat?, hlook] at h
    cases h
    have heq := hreplaced.eq_of_same
    subst heq
    exact ⟨hname, hreplaced⟩

theorem editsLocally (form : CompiledForm) : form.EditsLocally where
  missing := by
    intro edit hmissing
    cases edit with
    | add name =>
      rcases form.addRow_cases name with ⟨_, hadd⟩ | ⟨old, hlook, _⟩
      · simp only [edit, hadd]
      · simp [RowEdit.group, hlook] at hmissing
    | remove name index =>
      rcases form.removeRow_cases name index with ⟨_, hremove⟩ | ⟨old, _, hlook, _⟩
      · simp only [edit, hremove]
      · simp [RowEdit.group, hlook] at hmissing
  failed_add := by
    intro name e herror
    rcases form.addRow_cases name with ⟨_, hadd⟩ | ⟨old, _, ⟨_, _, hadd⟩ | ⟨_, _, _, _, _, hadd⟩⟩
    · simp [hadd] at herror
    · rw [hadd]
    · simp [hadd] at herror
  remove_beyond := by
    intro name index g hg hindex
    rcases form.removeRow_cases name index with ⟨hlook, _⟩ |
      ⟨old, fields, hlook, hreplaced, hremove⟩
    · rw [hlook] at hg
      cases hg
    · rw [hlook] at hg
      cases hg
      rw [RepeatGroup.remove_of_le hindex] at hreplaced hremove
      rw [hremove, hreplaced.eq_of_same]
  elsewhere := by
    intro edit old hold
    refine ⟨(found_of_repeat? hold).1, ?_⟩
    cases edit with
    | add name =>
      rcases form.addRow_cases name with ⟨hlook, _⟩ |
        ⟨found, hlook, ⟨e, _, hadd⟩ | ⟨index, new, fields, hnew, hreplaced, hadd⟩⟩
      · simp [RowEdit.group, hlook] at hold
      · refine ⟨old.rows, form.fields, (found_of_repeat? hold).2, ?_⟩
        simp only [CompiledForm.edit, hadd]
      · simp only [RowEdit.group, hlook, Option.some.injEq] at hold
        subst hold
        obtain ⟨row, _, _, rfl⟩ := RepeatGroup.add_eq_ok.mp hnew
        exact ⟨_, fields, hreplaced, by simp only [CompiledForm.edit, hadd]⟩
    | remove name index =>
      rcases form.removeRow_cases name index with ⟨hlook, _⟩ |
        ⟨found, fields, hlook, hreplaced, hremove⟩
      · simp [RowEdit.group, hlook] at hold
      · simp only [RowEdit.group, hlook, Option.some.injEq] at hold
        subst hold
        obtain ⟨rows, hrows⟩ := found.remove_rows index
        rw [hrows] at hreplaced
        exact ⟨rows, fields, hreplaced, by simp only [CompiledForm.edit, hremove]⟩

/-- An edit that changes a form adds a row to one group or removes one from it. -/
theorem edit_cases (form : CompiledForm) (edit : RowEdit) :
    form.edit edit = form ∨ ∃ old new fields, old.Edited new ∧
      Replaced old new form.fields fields ∧ form.edit edit = { form with fields := fields } := by
  cases edit with
  | add name =>
    rcases form.addRow_cases name with ⟨_, hadd⟩ |
      ⟨old, _, ⟨_, _, hadd⟩ | ⟨index, new, fields, hnew, hreplaced, hadd⟩⟩
    · exact Or.inl (by simp only [CompiledForm.edit, hadd])
    · exact Or.inl (by simp only [CompiledForm.edit, hadd])
    · exact Or.inr ⟨old, new, fields, .added hnew, hreplaced, by
        simp only [CompiledForm.edit, hadd]⟩
  | remove name index =>
    rcases form.removeRow_cases name index with ⟨_, hremove⟩ |
      ⟨old, fields, _, hreplaced, hremove⟩
    · exact Or.inl (by simp only [CompiledForm.edit, hremove])
    · exact Or.inr ⟨old, _, fields, .removed index, hreplaced, by
        simp only [CompiledForm.edit, hremove]⟩

/-- What no edit of one group breaks, no edits of the form break. -/
theorem edited_of_step {P : List CompiledField → Prop}
    (step : ∀ {old new fields fields'}, old.Edited new → Replaced old new fields fields' →
      P fields → P fields')
    {form : CompiledForm} (h : P form.fields) (edits : List RowEdit) :
    P (form.edited edits).fields := by
  induction edits generalizing form with
  | nil => exact h
  | cons edit rest ih =>
    refine ih ?_
    rcases form.edit_cases edit with heq | ⟨old, new, fields, hnew, hreplaced, heq⟩
    · rw [heq]
      exact h
    · rw [heq]
      exact step hnew hreplaced h

theorem addressed_edited {form : CompiledForm} (h : ∀ f ∈ form.fields, Addressed [] f)
    (edits : List RowEdit) : ∀ f ∈ (form.edited edits).fields, Addressed [] f :=
  edited_of_step (P := fun fields => ∀ f ∈ fields, Addressed [] f)
    (fun hnew hreplaced hfields =>
      hreplaced.addressed (fun _ hold => RepeatGroup.addressed_of_edited hnew hold) hfields)
    h edits

theorem fields_of_compile {schema : FormSchema} {values : Option Properties}
    {form : CompiledForm} (h : compile schema values = .ok form) :
    FieldSchema.compile schema.fields [] (.values values) = .ok form.fields := by
  simp only [compile, bind_eq_ok, Except.ok.injEq] at h
  obtain ⟨fields, hfields, rfl⟩ := h
  exact hfields

theorem addressed_of_compile {schema : FormSchema} {values : Option Properties}
    {form : CompiledForm} (h : compile schema values = .ok form) :
    ∀ f ∈ form.fields, Addressed [] f :=
  FieldSchema.addressed_of_compile (fields_of_compile h)

/-- After any edits of a compiled form every field has the path of its position, and every further
edit is local. -/
theorem edited_addressed_and_local {schema : FormSchema} {values : Option Properties}
    {form : CompiledForm} (h : compile schema values = .ok form) (edits : List RowEdit) :
    (∀ f ∈ (form.edited edits).fields, Addressed [] f) ∧ (form.edited edits).EditsLocally :=
  ⟨addressed_edited (addressed_of_compile h) edits, editsLocally _⟩

end CompiledForm

/-- The items of an order, each with a number and parts that have numbers of their own. -/
def orderItems : FieldSchema where
  name := "items"
  kind := .objectArray
  properties := some [("itemFields", .arr [
    .obj [("name", .str "sku")],
    .obj [("inputType", .str "object[]"), ("name", .str "parts"),
      ("properties", .obj [("itemFields", .arr [.obj [("name", .str "id")]])])]])]

def orderRows : List Json :=
  [.obj [("sku", .str "A")],
    .obj [("parts", .arr [.obj [("id", .int 1)], .obj [("id", .int 2)]]), ("sku", .str "B")]]

def compiledOrder : Except SchemaError CompiledForm :=
  CompiledForm.compile { fields := [orderItems] } (some [("items", .arr orderRows)])

def orderForm : CompiledForm := compiledOrder.toOption.getD ⟨[], "", none⟩

def orderEdits : List RowEdit := [.remove "items" 0, .remove "items.0.parts" 0, .add "items"]

theorem order_addressed_and_local :
    compiledOrder = .ok orderForm ∧
      (∀ f ∈ (orderForm.edited orderEdits).fields, Addressed [] f) ∧
      (orderForm.edited orderEdits).EditsLocally := by
  have h : compiledOrder = .ok orderForm := rfl
  exact ⟨h, CompiledForm.edited_addressed_and_local h orderEdits⟩

example : (orderForm.edited orderEdits).leaves.map LeafField.fullName =
    ["items.0.sku", "items.0.parts.0.id", "items.1.sku"] := by
  decide +kernel

end UiSchema
