import UiSchema.Proofs.Form.NestedLists
import UiSchema.Proofs.Form.RowEdits

/-!
# Which rows can be added

A row is compiled from the item fields of its group, without values. What is wrong inside an item
is therefore found when a row is added, and only then: a form can be compiled whose groups take no
row. No row is refused in a form whose lists decode at every depth, items included, since all item
fields that are kept in the form, whatever the edits, come from these lists.
-/

namespace UiSchema

set_option autoImplicit false

open CompiledField FieldSchema

/-- Without values a row can be added exactly when the item fields open. -/
theorem RepeatGroup.add_iff_opens {g : RepeatGroup CompiledField} :
    (∃ new, g.add = .ok (g.rows.length, new)) ↔ Opens g.itemFields := by
  rw [← compile_blank_iff (g.path.row g.rows.length)]
  constructor
  · rintro ⟨new, hadd⟩
    obtain ⟨row, hrow, _⟩ := add_eq_ok.mp hadd
    exact ⟨row, hrow⟩
  · rintro ⟨row, hrow⟩
    exact ⟨_, add_eq_ok.mpr ⟨row, hrow, rfl, rfl⟩⟩

namespace CompiledField

/-- The item fields of all repeat groups inside a field are sound. -/
inductive SoundItems : CompiledField → Prop
  | leaf (f : LeafField) : SoundItems (.leaf f)
  | group {g : GroupField CompiledField} :
      (∀ f ∈ g.fields, SoundItems f) → SoundItems (.group g)
  | repeated {g : RepeatGroup CompiledField} :
      Sound g.itemFields → (∀ row ∈ g.rows, ∀ f ∈ row, SoundItems f) → SoundItems (.repeated g)

theorem SoundItems.group_fields {g : GroupField CompiledField} (h : SoundItems (.group g)) :
    ∀ f ∈ g.fields, SoundItems f := by
  cases h with
  | group hfields => exact hfields

theorem SoundItems.itemFields {g : RepeatGroup CompiledField} (h : SoundItems (.repeated g)) :
    Sound g.itemFields := by
  cases h with
  | repeated hitems _ => exact hitems

theorem SoundItems.rows {g : RepeatGroup CompiledField} (h : SoundItems (.repeated g)) :
    ∀ row ∈ g.rows, ∀ f ∈ row, SoundItems f := by
  cases h with
  | repeated _ hrows => exact hrows

theorem SoundItems.reindex {f : CompiledField} (h : SoundItems f) (depth i : Nat) :
    SoundItems (f.reindex depth i) := by
  induction h with
  | leaf f =>
    rw [reindex_leaf]
    exact .leaf _
  | group _ ih =>
    rw [reindex_group]
    refine .group (fun moved hmoved => ?_)
    obtain ⟨f, hf, rfl⟩ := List.mem_map.mp hmoved
    exact ih f hf
  | repeated hitems _ ih =>
    rw [reindex_repeated]
    refine .repeated hitems (fun moved hmoved => ?_)
    obtain ⟨row, hrow, rfl⟩ := List.mem_map.mp hmoved
    rw [List.forall_mem_map]
    exact ih row hrow

theorem soundItems_renumber {depth i : Nat} {rows : List (List CompiledField)}
    (h : ∀ row ∈ rows, ∀ f ∈ row, SoundItems f) :
    ∀ row ∈ RepeatGroup.renumber depth i rows, ∀ f ∈ row, SoundItems f := by
  induction rows generalizing i with
  | nil => exact List.forall_mem_nil _
  | cons first rest ih =>
    obtain ⟨hfirst, hrest⟩ := List.forall_mem_cons.mp h
    rw [RepeatGroup.renumber]
    refine List.forall_mem_cons.mpr ⟨?_, ih hrest⟩
    rw [reindexList_eq_map, List.forall_mem_map]
    exact fun f hf => (hfirst f hf).reindex depth i

theorem soundItems_compileWithin (depth : Nat) :
    ∀ ⦃fields parent seed result⦄, Sound fields →
      compileWithin depth fields parent seed = .ok result → ∀ c ∈ result, SoundItems c := by
  refine compileWithin_of_level (P := fun compile => ∀ ⦃fields parent seed result⦄,
    Sound fields → compile fields parent seed = .ok result → ∀ c ∈ result, SoundItems c)
    ?_ (fun compile ih => ?_) depth
  · intro fields parent seed result _ hresult
    exact absurd hresult refuseAll_ne_ok
  · intro fields parent seed result hsound hresult c hc
    obtain ⟨f, hf, hc⟩ := mem_of_compileAll hresult hc
    have hf := mem_sortByOrder.mp hf
    cases compileField_eq_ok.mp hc with
    | leaf => exact .leaf _
    | group hkind hnested hfields =>
      have hinside := hsound.nested hf (nestedKey?_eq_fields.mpr hkind) trivial hnested
      exact .group (ih hinside hfields)
    | repeated hkind hnested hrows =>
      have hinside := hsound.nested hf (nestedKey?_eq_itemFields.mpr hkind) trivial hnested
      -- the group keeps its item fields in display order, and its rows come from the same list
      refine .repeated hinside.sortByOrder (fun row hrow => ?_)
      obtain ⟨i, hi⟩ := List.getElem?_of_mem hrow
      obtain ⟨_, _, hrow⟩ := getElem?_of_compileRows hrows hi
      exact ih hinside.sortByOrder hrow

theorem soundItems_of_edited {g new : RepeatGroup CompiledField} (h : g.Edited new)
    (hg : SoundItems (.repeated g)) : SoundItems (.repeated new) := by
  cases h with
  | added hadd =>
    obtain ⟨row, hrow, _, rfl⟩ := RepeatGroup.add_eq_ok.mp hadd
    refine .repeated hg.itemFields (fun other hother => ?_)
    -- the new row is compiled from the item fields of this very group
    rcases List.mem_append.mp hother with hother | hother
    · exact hg.rows other hother
    · rw [List.mem_singleton.mp hother]
      exact soundItems_compileWithin _ hg.itemFields hrow
  | removed index =>
    by_cases hindex : index < g.rows.length
    · rw [RepeatGroup.remove_of_lt hindex]
      refine .repeated hg.itemFields (fun row hrow => ?_)
      rcases List.mem_append.mp hrow with hrow | hrow
      · exact hg.rows row (List.mem_of_mem_take hrow)
      · refine soundItems_renumber (fun other hother => ?_) row hrow
        exact hg.rows other (List.mem_of_mem_drop hother)
    · rw [RepeatGroup.remove_of_le (Nat.not_lt.mp hindex)]
      exact hg

section Replaced

variable {old new : RepeatGroup CompiledField} {fields fields' : List CompiledField}
variable (h : Replaced old new fields fields') (hfields : ∀ f ∈ fields, SoundItems f)
include h hfields

theorem Replaced.soundItems (hnew : SoundItems (.repeated old) → SoundItems (.repeated new)) :
    ∀ f ∈ fields', SoundItems f := by
  induction h with
  | here before after => exact forall_mem_replace hfields hnew
  | group before after g _ ih =>
    exact forall_mem_replace hfields (fun hg => .group (ih hg.group_fields))
  | row before after g above below hrows _ ih =>
    refine forall_mem_replace hfields (fun hg => .repeated hg.itemFields ?_)
    have hrow := hg.rows
    rw [hrows] at hrow
    exact forall_mem_replace hrow ih

theorem Replaced.soundItems_old : Sound old.itemFields := by
  induction h with
  | here before after =>
    exact (hfields _ (List.mem_append_right before List.mem_cons_self)).itemFields
  | group before after g _ ih =>
    exact ih (hfields _ (List.mem_append_right before List.mem_cons_self)).group_fields
  | row before after g above below hrows _ ih =>
    have hg := (hfields _ (List.mem_append_right before List.mem_cons_self)).rows
    rw [hrows] at hg
    exact ih (hg _ (List.mem_append_right above List.mem_cons_self))

end Replaced

end CompiledField

namespace CompiledForm

theorem soundItems_of_compile {schema : FormSchema} {seed : Option Properties}
    {form : CompiledForm} (h : compile schema seed = .ok form) (hsound : Sound schema.fields) :
    ∀ f ∈ form.fields, SoundItems f :=
  soundItems_compileWithin _ hsound (fields_of_compile h)

theorem soundItems_edited {form : CompiledForm} (h : ∀ f ∈ form.fields, SoundItems f)
    (edits : List RowEdit) : ∀ f ∈ (form.edited edits).fields, SoundItems f :=
  edited_of_step (P := fun fields => ∀ f ∈ fields, SoundItems f)
    (fun hnew hreplaced hfields => hreplaced.soundItems hfields (soundItems_of_edited hnew)) h edits

theorem opens_of_compile {schema : FormSchema} {seed : Option Properties} {form : CompiledForm}
    (h : compile schema seed = .ok form) : Opens schema.fields :=
  opens_of_compileWithin _ (fields_of_compile h)

theorem addRow_iff_opens {form : CompiledForm} {name : String} {g : RepeatGroup CompiledField}
    (hg : form.repeat? name = some g) :
    (form.addRow name).1 = some (.ok g.rows.length) ↔ Opens g.itemFields := by
  rw [← RepeatGroup.add_iff_opens]
  rcases form.addRow_cases name with ⟨hnone, _⟩ | ⟨old, hold, hrun⟩
  · rw [hnone] at hg
    cases hg
  · rw [hold] at hg
    cases hg
    rcases hrun with ⟨e, herror, hadd⟩ | ⟨index, new, fields, hnew, _, hadd⟩
    · rw [hadd, herror]
      exact ⟨nofun, nofun⟩
    · obtain ⟨_, _, rfl, _⟩ := RepeatGroup.add_eq_ok.mp hnew
      rw [hadd]
      exact ⟨fun _ => ⟨new, hnew⟩, fun _ => rfl⟩

/-- Compiling checks the lists that open, and a row is added, after any edits, exactly when those of
its item fields open. All rows can be added to the form of a sound schema. -/
theorem edited_addRow_iff {schema : FormSchema} {seed : Option Properties} {form : CompiledForm}
    (h : compile schema seed = .ok form) (edits : List RowEdit) :
    Opens schema.fields ∧
      ∀ name g, (form.edited edits).repeat? name = some g →
        (((form.edited edits).addRow name).1 = some (.ok g.rows.length) ↔ Opens g.itemFields) ∧
        (Sound schema.fields →
          ((form.edited edits).addRow name).1 = some (.ok g.rows.length)) := by
  refine ⟨opens_of_compile h, fun name g hg => ⟨addRow_iff_opens hg, fun hsound => ?_⟩⟩
  apply (addRow_iff_opens hg).mpr
  have hitems := soundItems_edited (soundItems_of_compile h hsound) edits
  exact ((found_of_repeat? hg).2.soundItems_old hitems).opens

end CompiledForm

theorem order_rows_added :
    compiledOrder = .ok orderForm ∧ Sound [orderItems] ∧ Opens [orderItems] ∧
      ∀ name g, (orderForm.edited orderEdits).repeat? name = some g →
        ((orderForm.edited orderEdits).addRow name).1 = some (.ok g.rows.length) := by
  have h : compiledOrder = .ok orderForm := rfl
  have hsound : Sound [orderItems] :=
    .nest rfl rfl (.plain rfl (.nest rfl rfl (.plain rfl .nil) .nil)) .nil
  obtain ⟨hopens, hadds⟩ := CompiledForm.edited_addRow_iff h orderEdits
  exact ⟨h, hsound, hopens, fun name g hg => (hadds name g hg).2 hsound⟩

/-- A list whose items hold a group without a list of fields. -/
def unfinishedSchema : FormSchema where
  fields := [{
    name := "rows"
    kind := .objectArray
    properties := some [("itemFields",
      .arr [.obj [("inputType", .str "object"), ("name", .str "dims")]])] }]
  action := "/x"

/-- The group is missing its list when the form is compiled, and it is noticed with the first
row. -/
theorem unfinished_addRow_fails :
    ∃ form g, CompiledForm.compile unfinishedSchema none = .ok form ∧
      form.repeat? "rows" = some g ∧
      (form.addRow "rows").1 = some (.error (.missingNested "rows.0.dims" .fields)) :=
  ⟨_, _, rfl, rfl, rfl⟩

end UiSchema
