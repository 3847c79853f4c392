import UiSchema.Form.Basic

/-!
# The tree of compiled fields

Groups and repetitions nest fields to any depth. Every traversal of them is a list operation on the
children, `Within` says that a field occurs at some depth, and `Replaced` relates two lists of
fields that differ in one repeat group only. An action on the repeat group of a name replaces the
first group of that name and nothing else, whatever the action is.
-/

namespace UiSchema.CompiledField

set_option autoImplicit false

def name : CompiledField → String
  | .leaf f => f.name
  | .group g => g.name
  | .repeated g => g.name

/-- Induction over fields, with the hypothesis for the fields of a group and of every row. -/
@[elab_as_elim]
theorem induction {motive : CompiledField → Prop}
    (leaf : ∀ f, motive (.leaf f))
    (group : ∀ g : GroupField CompiledField, (∀ f ∈ g.fields, motive f) → motive (.group g))
    (repeated : ∀ g : RepeatGroup CompiledField,
      (∀ row ∈ g.rows, ∀ f ∈ row, motive f) → motive (.repeated g))
    (f : CompiledField) : motive f := by
  refine @CompiledField.rec motive (fun g => ∀ f ∈ g.fields, motive f)
    (fun g => ∀ row ∈ g.rows, ∀ f ∈ row, motive f) (fun fields => ∀ f ∈ fields, motive f)
    (fun rows => ∀ row ∈ rows, ∀ f ∈ row, motive f) leaf (fun g ih => group g ih)
    (fun g ih => repeated g ih) (fun _ _ _ _ ih => ih) (fun _ _ _ _ _ ih => ih) ?_ ?_ ?_ ?_ f
  · intro f hf
    cases hf
  · intro first rest hfirst hrest f hf
    rcases List.mem_cons.mp hf with rfl | hf
    · exact hfirst
    · exact hrest f hf
  · intro row hrow
    cases hrow
  · intro first rest hfirst hrest row hrow
    rcases List.mem_cons.mp hrow with rfl | hrow
    · exact hfirst
    · exact hrest row hrow

section Traversals

variable (depth i : Nat)

theorem reindexList_eq_map (fields : List CompiledField) :
    reindexList depth i fields = fields.map (reindex depth i) := by
  induction fields with
  | nil => rfl
  | cons f rest ih => simp only [reindexList, ih, List.map_cons]

theorem reindexRows_eq_map (rows : List (List CompiledField)) :
    reindexRows depth i rows = rows.map (List.map (reindex depth i)) := by
  induction rows with
  | nil => rfl
  | cons row rest ih => simp only [reindexRows, ih, reindexList_eq_map, List.map_cons]

@[simp] theorem reindex_leaf (f : LeafField) :
    reindex depth i (.leaf f) = .leaf { f with path := f.path.setIndex depth i } := by
  rw [reindex]

@[simp] theorem reindex_group (g : GroupField CompiledField) :
    reindex depth i (.group g) =
      .group { g with
        path := g.path.setIndex depth i, fields := g.fields.map (reindex depth i) } := by
  rw [reindex, reindexList_eq_map]

@[simp] theorem reindex_repeated (g : RepeatGroup CompiledField) :
    reindex depth i (.repeated g) =
      .repeated { g with
        path := g.path.setIndex depth i, rows := g.rows.map (List.map (reindex depth i)) } := by
  rw [reindex, reindexRows_eq_map]

theorem leavesOf_eq_flatMap (fields : List CompiledField) :
    leavesOf fields = fields.flatMap leaves := by
  induction fields with
  | nil => rfl
  | cons f rest ih => simp only [leavesOf, ih, List.flatMap_cons]

theorem leavesOfRows_eq_flatMap (rows : List (List CompiledField)) :
    leavesOfRows rows = rows.flatMap leavesOf := by
  induction rows with
  | nil => rfl
  | cons row rest ih => simp only [leavesOfRows, ih, List.flatMap_cons]

theorem mem_leavesOf {leaf : LeafField} {fields : List CompiledField} :
    leaf ∈ leavesOf fields ↔ ∃ f ∈ fields, leaf ∈ f.leaves := by
  rw [leavesOf_eq_flatMap, List.mem_flatMap]

theorem mem_leaves_leaf {leaf f : LeafField} : leaf ∈ (CompiledField.leaf f).leaves ↔ leaf = f := by
  rw [leaves, List.mem_singleton]

theorem mem_leaves_group {leaf : LeafField} {g : GroupField CompiledField} :
    leaf ∈ (group g).leaves ↔ leaf ∈ leavesOf g.fields := by
  rw [leaves]

theorem mem_leaves_repeated {leaf : LeafField} {g : RepeatGroup CompiledField} :
    leaf ∈ (repeated g).leaves ↔ ∃ row ∈ g.rows, leaf ∈ leavesOf row := by
  rw [leaves, leavesOfRows_eq_flatMap, List.mem_flatMap]

end Traversals

/-- A field occurs in a list of fields, at any depth. -/
inductive Within (f : CompiledField) : List CompiledField → Prop
  | here {fields : List CompiledField} : f ∈ fields → Within f fields
  | group {fields : List CompiledField} {g : GroupField CompiledField} :
      .group g ∈ fields → Within f g.fields → Within f fields
  | row {fields row : List CompiledField} {g : RepeatGroup CompiledField} :
      .repeated g ∈ fields → row ∈ g.rows → Within f row → Within f fields

/-- One repeat group, at any depth, is replaced by another; all around it is the same. -/
inductive Replaced (old new : RepeatGroup CompiledField) :
    List CompiledField → List CompiledField → Prop
  | here (before after : List CompiledField) :
      Replaced old new (before ++ .repeated old :: after) (before ++ .repeated new :: after)
  | group (before after : List CompiledField) (g : GroupField CompiledField)
      {fields : List CompiledField} :
      Replaced old new g.fields fields →
      Replaced old new (before ++ .group g :: after)
        (before ++ .group { g with fields := fields } :: after)
  | row (before after : List CompiledField) (g : RepeatGroup CompiledField)
      (above below : List (List CompiledField)) {row row' : List CompiledField} :
      g.rows = above ++ row :: below → Replaced old new row row' →
      Replaced old new (before ++ .repeated g :: after)
        (before ++ .repeated { g with rows := above ++ row' :: below } :: after)

theorem Replaced.append {old new : RepeatGroup CompiledField} {fields fields' : List CompiledField}
    (h : Replaced old new fields fields') (front back : List CompiledField) :
    Replaced old new (front ++ fields ++ back) (front ++ fields' ++ back) := by
  cases h with
  | here before after =>
    simpa using Replaced.here (front ++ before) (after ++ back)
  | group before after g h =>
    simpa using Replaced.group (front ++ before) (after ++ back) g h
  | row before after g above below hrows h =>
    simpa using Replaced.row (front ++ before) (after ++ back) g above below hrows h

theorem Replaced.eq_of_same {g : RepeatGroup CompiledField} {fields fields' : List CompiledField}
    (h : Replaced g g fields fields') : fields' = fields := by
  induction h with
  | here before after => rfl
  | group before after g _ ih => rw [ih]
  | row before after g above below hrows _ ih => rw [ih, ← hrows]

/-- How acting on the repeat group of a name goes, whatever the action: there is no such group, or
the action is applied to one group of that name, whose place in the result is as `replaced` says. -/
def ActsOnOne {κ : Type} (name : String) (run : (α : Type) → RepeatAction α → Option (α × κ))
    (replaced : RepeatGroup CompiledField → RepeatGroup CompiledField → κ → Prop) : Prop :=
  (∀ α act, run α act = none) ∨
  ∃ old, old.path.text = name ∧
    ∀ α act, ∃ result, run α act = some ((act old).1, result) ∧ replaced old (act old).2 result

section Actions

variable (name : String)

theorem actsOnOne_fields {fields : List CompiledField}
    (h : ∀ f ∈ fields, ActsOnOne name (fun _ act => actOnRepeat name act f)
      (fun old new f' => Replaced old new [f] [f'])) :
    ActsOnOne name (fun _ act => actOnRepeatIn name act fields)
      (fun old new fields' => Replaced old new fields fields') := by
  induction fields with
  | nil => exact Or.inl (fun _ _ => rfl)
  | cons f rest ih =>
    rcases h f List.mem_cons_self with hnone | ⟨old, hname, hrun⟩
    · rcases ih (fun g hg => h g (List.mem_cons_of_mem f hg)) with hrest | ⟨old, hname, hrun⟩
      · refine Or.inl (fun α act => ?_)
        simp only [actOnRepeatIn, hnone α act, hrest α act, Option.map_none]
      · refine Or.inr ⟨old, hname, fun α act => ?_⟩
        obtain ⟨rest', hact, hreplaced⟩ := hrun α act
        refine ⟨f :: rest', ?_, ?_⟩
        · simp only [actOnRepeatIn, hnone α act, hact, Option.map_some]
        · simpa using hreplaced.append [f] []
    · refine Or.inr ⟨old, hname, fun α act => ?_⟩
      obtain ⟨f', hact, hreplaced⟩ := hrun α act
      refine ⟨f' :: rest, ?_, ?_⟩
      · simp only [actOnRepeatIn, hact]
      · simpa using hreplaced.append [] rest

theorem actsOnOne_rows {rows : List (List CompiledField)}
    (h : ∀ row ∈ rows, ActsOnOne name (fun _ act => actOnRepeatIn name act row)
      (fun old new row' => Replaced old new row row')) :
    ActsOnOne name (fun _ act => actOnRepeatInRows name act rows)
      (fun old new rows' => ∃ above row row' below,
        rows = above ++ row :: below ∧ rows' = above ++ row' :: below ∧
          Replaced old new row row') := by
  induction rows with
  | nil => exact Or.inl (fun _ _ => rfl)
  | cons row rest ih =>
    rcases h row List.mem_cons_self with hnone | ⟨old, hname, hrun⟩
    · rcases ih (fun r hr => h r (List.mem_cons_of_mem row hr)) with hrest | ⟨old, hname, hrun⟩
      · refine Or.inl (fun α act => ?_)
        simp only [actOnRepeatInRows, hnone α act, hrest α act, Option.map_none]
      · refine Or.inr ⟨old, hname, fun α act => ?_⟩
        obtain ⟨rest', hact, above, r, r', below, rfl, rfl, hreplaced⟩ := hrun α act
        refine ⟨_, ?_, row :: above, r, r', below, rfl, rfl, hreplaced⟩
        simp only [actOnRepeatInRows, hnone α act, hact, Option.map_some, List.cons_append]
    · refine Or.inr ⟨old, hname, fun α act => ?_⟩
      obtain ⟨row', hact, hreplaced⟩ := hrun α act
      refine ⟨row' :: rest, ?_, [], row, row', rest, rfl, rfl, hreplaced⟩
      simp only [actOnRepeatInRows, hact]

theorem actsOnOne (f : CompiledField) :
    ActsOnOne name (fun _ act => actOnRepeat name act f)
      (fun old new f' => Replaced old new [f] [f']) := by
  induction f using CompiledField.induction with
  | leaf f => exact Or.inl (fun _ _ => by simp only [actOnRepeat])
  | group g ih =>
    rcases actsOnOne_fields name ih with hnone | ⟨old, hname, hrun⟩
    · refine Or.inl (fun α act => ?_)
      simp only [actOnRepeat, hnone α act, Option.map_none]
    · refine Or.inr ⟨old, hname, fun α act => ?_⟩
      obtain ⟨fields', hact, hreplaced⟩ := hrun α act
      refine ⟨.group { g with fields := fields' }, ?_, Replaced.group [] [] g hreplaced⟩
      simp only [actOnRepeat, hact, Option.map_some]
  | repeated g ih =>
    by_cases hg : g.path.text = name
    · refine Or.inr ⟨g, hg, fun α act => ⟨.repeated (act g).2, ?_, Replaced.here [] []⟩⟩
      simp only [actOnRepeat, if_pos hg]
    · rcases actsOnOne_rows name (fun row hrow => actsOnOne_fields name (ih row hrow)) with
        hnone | ⟨old, hname, hrun⟩
      · refine Or.inl (fun α act => ?_)
        simp only [actOnRepeat, if_neg hg, hnone α act, Option.map_none]
      · refine Or.inr ⟨old, hname, fun α act => ?_⟩
        obtain ⟨rows', hact, above, row, row', below, hrows, rfl, hreplaced⟩ := hrun α act
        refine ⟨.repeated { g with rows := above ++ row' :: below }, ?_,
          Replaced.row [] [] g above below hrows hreplaced⟩
        simp only [actOnRepeat, if_neg hg, hact, Option.map_some]

/-- An action on the repeat group of a name changes nothing but the group that `repeat?` finds. -/
theorem actOnRepeatIn_cases (fields : List CompiledField) {α : Type} (act : RepeatAction α) :
    (repeat? fields name = none ∧ actOnRepeatIn name act fields = none) ∨
    ∃ old fields', repeat? fields name = some old ∧ old.path.text = name ∧
      actOnRepeatIn name act fields = some ((act old).1, fields') ∧
      Replaced old (act old).2 fields fields' := by
  rcases actsOnOne_fields name (fun f (_ : f ∈ fields) => actsOnOne name f) with
    hnone | ⟨old, hname, hrun⟩
  · refine Or.inl ⟨?_, hnone α act⟩
    simp only [repeat?, hnone, Option.map_none]
  · obtain ⟨_, hlook, _⟩ := hrun _ (fun g => (g, g))
    simp only at hlook
    obtain ⟨fields', hact, hreplaced⟩ := hrun α act
    refine Or.inr ⟨old, fields', ?_, hname, hact, hreplaced⟩
    simp only [repeat?, hlook, Option.map_some]

end Actions

end UiSchema.CompiledField
