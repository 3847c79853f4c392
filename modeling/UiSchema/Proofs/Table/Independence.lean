import Mathlib.Data.List.Perm.Basic
import UiSchema.Proofs.Dict
import UiSchema.Proofs.Table.Changes

/-!
# Edits are idempotent and independent

On every field the last condition that is asked for decides, whatever else is asked for around it.
So the same edits made again find what they ask for in force and in its place, and edits of
different remote fields may be made in any order, or in one change that holds them all.
-/

namespace UiSchema

set_option autoImplicit false

namespace SearchQuery

/-- At most one condition on each field. -/
def OnePerField (q : SearchQuery) : Prop := q.conditions.Pairwise (fun c d => c.field ≠ d.field)

instance (q : SearchQuery) : Decidable q.OnePerField :=
  inferInstanceAs (Decidable (q.conditions.Pairwise (fun c d => c.field ≠ d.field)))

/-- The remote fields of the edits in a change that belong to an active column. -/
def editedFields (columns : List ColumnSchema) (changed : Properties) : List String :=
  (changed.filterMap (asks? columns)).map (fun c => c.field)

/-- Which remote field an edit is for depends on its name alone. -/
theorem mem_editedFields_of_key {columns : List ColumnSchema} {changed : Properties}
    {edit : String × Json} (hkey : edit.1 ∈ Dict.keys changed) {c : SearchCondition}
    (hask : asks? columns edit = some c) : c.field ∈ editedFields columns changed := by
  obtain ⟨other, hother, hname⟩ := List.mem_map.mp hkey
  rw [asks?_eq, ← hname] at hask
  obtain ⟨target, htarget, rfl⟩ := Option.map_eq_some_iff.mp hask
  refine List.mem_map.mpr ⟨⟨target.1, target.2, other.2⟩, ?_, rfl⟩
  exact List.mem_filterMap.mpr ⟨other, hother, by rw [asks?_eq, htarget]; rfl⟩

section Last

variable {asked asked' : List SearchCondition} {field : String}

theorem lastOn?_append (asked asked' : List SearchCondition) (field : String) :
    lastOn? (asked ++ asked') field = (lastOn? asked' field).or (lastOn? asked field) := by
  rw [lastOn?, List.reverse_append, List.find?_append, ← lastOn?, ← lastOn?]

theorem lastOn?_of_not_mem (h : field ∉ asked.map (fun c => c.field)) :
    lastOn? asked field = none := by
  apply lastOn?_eq_none.mpr
  apply List.any_eq_false.mpr
  intro c hc hfield
  exact h (List.mem_map.mpr ⟨c, hc, beq_iff_eq.mp hfield⟩)

/-- Edits that ask for nothing on a field may be left out. -/
theorem lastOn?_filter {columns : List ColumnSchema} {changed : Properties}
    {p : String × Json → Bool}
    (h : ∀ edit ∈ changed, p edit = false → ∀ c, asks? columns edit = some c → c.field ≠ field) :
    lastOn? ((changed.filter p).filterMap (asks? columns)) field =
      lastOn? (changed.filterMap (asks? columns)) field := by
  induction changed with
  | nil => rfl
  | cons edit rest ih =>
    obtain ⟨hedit, hrest⟩ := List.forall_mem_cons.mp h
    cases hask : asks? columns edit with
    | none =>
      rw [List.filterMap_cons_none hask, ← ih hrest]
      cases hp : p edit with
      | true => rw [List.filter_cons_of_pos hp, List.filterMap_cons_none hask]
      | false => rw [List.filter_cons_of_neg (by simp [hp])]
    | some c =>
      rw [List.filterMap_cons_some hask, lastOn?_cons, ← ih hrest]
      cases hp : p edit with
      | true => rw [List.filter_cons_of_pos hp, List.filterMap_cons_some hask, lastOn?_cons]
      | false =>
        rw [List.filter_cons_of_neg (by simp [hp]), if_neg (hedit hp c hask), Option.or_none]

end Last

section Amended

variable {conditions asked asked' : List SearchCondition}

/-- The last conditions asked for are all that counts, up to order. -/
theorem amended_perm (h : conditions.Pairwise (fun c d => c.field ≠ d.field))
    (hlast : ∀ field, lastOn? asked field = lastOn? asked' field) :
    (amended conditions asked).Perm (amended conditions asked') := by
  have hnodup : ∀ asked, (amended conditions asked).Nodup := by
    intro asked
    apply (amended_distinct h asked).imp
    intro c d hne heq
    exact hne (congrArg SearchCondition.field heq)
  apply (List.perm_ext_iff_of_nodup (hnodup asked) (hnodup asked')).mpr
  intro c
  rw [mem_amended, mem_amended, hlast]

theorem amended_amended_self (conditions asked : List SearchCondition) :
    amended (amended conditions asked) asked = amended conditions asked := by
  have hfront : (conditions.filter (fun c => !asksFor asked c)).filter (fun c => !asksFor asked c) =
      conditions.filter (fun c => !asksFor asked c) := by
    rw [List.filter_filter]
    simp only [Bool.and_self]
  have hback : (settled asked).filter (fun c => !asksFor asked c) = [] := by
    apply List.filter_eq_nil_iff.mpr
    intro c hc
    have hasked : IsAsked asked c.field := ⟨c, mem_of_lastOn? (mem_settled.mp hc).1, rfl⟩
    simp [asksFor_iff.mpr hasked]
  rw [amended, amended, List.filter_append, hfront, hback, List.append_nil]

end Amended

section Changes

variable {q : SearchQuery} (h : q.OnePerField) (columns : List ColumnSchema)
include h

theorem conditions_applyChange (changed : Properties) :
    (q.applyChange changed columns).conditions =
      amended q.conditions (changed.filterMap (asks? columns)) :=
  foldl_applyEdit_eq columns changed h

theorem onePerField_applyChange (changed : Properties) :
    (q.applyChange changed columns).OnePerField := by
  rw [OnePerField, conditions_applyChange h]
  exact amended_distinct h _

theorem conditions_applyChange_applyChange (changed changed' : Properties) :
    ((q.applyChange changed columns).applyChange changed' columns).conditions =
      amended q.conditions
        (changed.filterMap (asks? columns) ++ changed'.filterMap (asks? columns)) := by
  have happend := conditions_applyChange h columns (changed ++ changed')
  rw [applyChange, List.foldl_append, List.filterMap_append] at happend
  exact happend

theorem applyChange_twice (changed : Properties) :
    (q.applyChange changed columns).applyChange changed columns =
      q.applyChange changed columns := by
  have hagain := conditions_applyChange (onePerField_applyChange h columns changed) columns changed
  rw [conditions_applyChange h, amended_amended_self, ← conditions_applyChange h] at hagain
  exact congrArg SearchQuery.mk hagain

theorem applyChange_comm {changed changed' : Properties}
    (hfields : List.Disjoint (editedFields columns changed) (editedFields columns changed')) :
    ((q.applyChange changed columns).applyChange changed' columns).conditions.Perm
      ((q.applyChange changed' columns).applyChange changed columns).conditions := by
  rw [conditions_applyChange_applyChange h, conditions_applyChange_applyChange h]
  apply amended_perm h
  intro field
  rw [lastOn?_append, lastOn?_append]
  by_cases hfield : field ∈ editedFields columns changed
  · rw [lastOn?_of_not_mem (hfields hfield), Option.none_or, Option.or_none]
  · rw [lastOn?_of_not_mem hfield, Option.none_or, Option.or_none]

theorem applyChange_overlay {changed changed' : Properties}
    (hfields : List.Disjoint (editedFields columns changed) (editedFields columns changed'))
    (hascending : Dict.Ascending changed) (hascending' : Dict.Ascending changed')
    (hkeys : List.Disjoint (Dict.keys changed) (Dict.keys changed')) :
    (q.applyChange (Dict.overlay changed changed') columns).conditions.Perm
      ((q.applyChange changed columns).applyChange changed' columns).conditions := by
  obtain ⟨hleft, hright⟩ := Dict.filter_overlay hascending hascending' (fun _ => @hkeys _)
  rw [conditions_applyChange h, conditions_applyChange_applyChange h]
  apply amended_perm h
  intro field
  -- on a field that one of the changes leaves alone, the other one is all there is
  have hother : ∀ own : Properties, field ∉ editedFields columns own →
      ∀ e ∈ Dict.overlay changed changed', decide (e.1 ∉ Dict.keys own) = false →
        ∀ c, asks? columns e = some c → c.field ≠ field := by
    intro own hown e _ hkey c hask heq
    have hmem : e.1 ∈ Dict.keys own := by simpa using hkey
    exact hown (heq ▸ mem_editedFields_of_key hmem hask)
  rw [lastOn?_append]
  by_cases hfield : field ∈ editedFields columns changed
  · have hfield' := hfields hfield
    rw [lastOn?_of_not_mem hfield', Option.none_or, ← lastOn?_filter (hother changed' hfield'),
      hleft]
  · rw [lastOn?_of_not_mem hfield, Option.or_none, ← lastOn?_filter (hother changed hfield), hright]

end Changes

/-- Edits that are made again change nothing. Edits of different remote fields lead to the same
conditions in either order, and as one change when no name is in both. -/
theorem applyChange_idempotent_independent {q : SearchQuery} (h : q.OnePerField)
    (columns : List ColumnSchema) :
    (∀ changed, (q.applyChange changed columns).applyChange changed columns =
      q.applyChange changed columns) ∧
    ∀ changed changed',
      List.Disjoint (editedFields columns changed) (editedFields columns changed') →
      ((q.applyChange changed columns).applyChange changed' columns).conditions.Perm
          ((q.applyChange changed' columns).applyChange changed columns).conditions ∧
        (Dict.Ascending changed → Dict.Ascending changed' →
          List.Disjoint (Dict.keys changed) (Dict.keys changed') →
          (q.applyChange (Dict.overlay changed changed') columns).conditions.Perm
            ((q.applyChange changed columns).applyChange changed' columns).conditions) := by
  refine ⟨applyChange_twice h columns, fun changed changed' hfields => ?_⟩
  refine ⟨applyChange_comm h columns hfields, fun hascending hascending' hkeys => ?_⟩
  exact applyChange_overlay h columns hfields hascending hascending' hkeys

/-- People can be searched for by their name, a part of it or a town; notes are only shown. -/
def peopleColumns : List ColumnSchema :=
  [(ColumnSchema.ofIndex "name").withFilter { apply := true },
    (ColumnSchema.ofIndex "alias").withFilter
      { apply := true, searchField := some "name", operator := some "like" },
    ColumnSchema.ofIndex "note",
    (ColumnSchema.ofIndex "town").withFilter { apply := true }]

def peopleQuery : SearchQuery :=
  ⟨[⟨"town", "eq", .str "Ulm"⟩, ⟨"name", "eq", .str "ann"⟩, ⟨"age", "gt", .int 3⟩]⟩

theorem people_renamed_and_moved :
    peopleQuery.OnePerField ∧
      (peopleQuery.applyChange [("alias", .str ""), ("name", .str "bob")] peopleColumns).applyChange
          [("alias", .str ""), ("name", .str "bob")] peopleColumns =
        ⟨[⟨"town", "eq", .str "Ulm"⟩, ⟨"age", "gt", .int 3⟩, ⟨"name", "eq", .str "bob"⟩]⟩ ∧
      (peopleQuery.applyChange [("name", .str "bob"), ("note", .null), ("town", .null)]
        peopleColumns).conditions.Perm
          ((peopleQuery.applyChange [("note", .null), ("town", .null)] peopleColumns).applyChange
            [("name", .str "bob")] peopleColumns).conditions := by
  have hquery : peopleQuery.OnePerField := by decide
  obtain ⟨htwice, happart⟩ := applyChange_idempotent_independent hquery peopleColumns
  have hmerged : [("name", Json.str "bob"), ("note", .null), ("town", .null)] =
      Dict.overlay [("name", .str "bob")] [("note", .null), ("town", .null)] := rfl
  have hfields : List.Disjoint (editedFields peopleColumns [("name", .str "bob")])
      (editedFields peopleColumns [("note", .null), ("town", .null)]) := by
    have h : ∀ field ∈ ["name"], field ∉ ["town"] := by decide
    exact fun field hfield => h field hfield
  obtain ⟨hcomm, hoverlay⟩ := happart _ _ hfields
  refine ⟨hquery, (htwice _).trans rfl, ?_⟩
  rw [hmerged]
  refine (hoverlay ?_ ?_ ?_).trans hcomm
  · exact List.pairwise_singleton _ _
  · exact List.pairwise_pair.mpr (by decide)
  · have h : ∀ key ∈ ["name"], key ∉ ["note", "town"] := by decide
    exact fun key hkey => h key hkey

end SearchQuery

end UiSchema
