import UiSchema.Proofs.Json.Equality
import UiSchema.Table.Query

/-!
# The live query is the record of the last edits

Every edit of a search field asks for a condition on the remote field of its column. `settled`
keeps, in order, the last condition asked for on each remote field, and drops those whose value is
cleared. The query of a session holds exactly these conditions, one a field, over any edits and
resets. A session that sees no change keeps the values it has, and changes are seen by equality of
values: of a zero whose sign alone is edited the earlier sign stays.
-/

namespace UiSchema

set_option autoImplicit false

/-- The first column with a data index that takes part in the search. -/
def ColumnSchema.firstActive? (columns : List ColumnSchema) (name : String) : Option ColumnSchema :=
  columns.find? (fun c => c.dataIndex == name && c.activeFilter?.isSome)

namespace SearchQuery

/-- The last condition on each field, in the order of the list. -/
def lastPerField : List SearchCondition → List SearchCondition
  | [] => []
  | c :: rest =>
    if rest.any (fun d => d.field == c.field) then lastPerField rest else c :: lastPerField rest

/-- The last condition asked for on a field. -/
def lastOn? (asked : List SearchCondition) (field : String) : Option SearchCondition :=
  asked.reverse.find? (fun c => c.field == field)

/-- What conditions asked for in order come down to. -/
def settled (asked : List SearchCondition) : List SearchCondition :=
  (lastPerField asked).filter (fun c => !isCleared c.value)

/-- The condition that an edit asks for, on the remote field and with the operator of the first
active column of the edited name; nothing when there is no such column. -/
def asks? (columns : List ColumnSchema) (edit : String × Json) : Option SearchCondition := do
  let column ← ColumnSchema.firstActive? columns edit.1
  let filter ← column.activeFilter?
  return ⟨filter.searchField.getD column.dataIndex, filter.operator.getD defaultOperator, edit.2⟩

/-- The last condition on `field` is asked for before the last one on `field'`. -/
def LastBefore (asked : List SearchCondition) (field field' : String) : Prop :=
  ∃ before after, asked = before ++ after ∧ (∀ c ∈ after, c.field ≠ field) ∧
    ∃ c ∈ after, c.field = field'

theorem asks?_eq (columns : List ColumnSchema) (edit : String × Json) :
    asks? columns edit =
      (target? columns edit.1).map (fun target => ⟨target.1, target.2, edit.2⟩) := by
  induction columns with
  | nil => rfl
  | cons c rest ih =>
    unfold asks? ColumnSchema.firstActive? target? at ih ⊢
    rw [List.find?_cons, List.findSome?_cons]
    by_cases hname : c.dataIndex = edit.1
    · cases hfilter : c.activeFilter? with
      | none => simpa [hname, hfilter] using ih
      | some filter => simp [hname, hfilter]
    · have hbeq : (c.dataIndex == edit.1) = false := beq_eq_false_iff_ne.mpr hname
      simpa [hname, hbeq] using ih

section Last

variable {asked : List SearchCondition}

theorem lastPerField_sublist (asked : List SearchCondition) :
    (lastPerField asked).Sublist asked := by
  induction asked with
  | nil => exact List.Sublist.slnil
  | cons c rest ih =>
    rw [lastPerField]
    split
    · exact ih.cons c
    · exact ih.cons_cons c

theorem lastPerField_append (asked : List SearchCondition) (c : SearchCondition) :
    lastPerField (asked ++ [c]) =
      (lastPerField asked).filter (fun d => d.field ≠ c.field) ++ [c] := by
  induction asked with
  | nil => rfl
  | cons d rest ih =>
    simp only [List.cons_append, lastPerField, List.any_append, List.any_cons, List.any_nil,
      Bool.or_false, Bool.or_eq_true, beq_iff_eq]
    by_cases hrest : rest.any (fun e => e.field == d.field) = true
    · rw [if_pos (Or.inl hrest), if_pos hrest, ih]
    · rw [if_neg hrest]
      by_cases hc : c.field = d.field
      · rw [if_pos (Or.inr hc), ih, List.filter_cons_of_neg (by simp [hc])]
      · rw [if_neg (fun h => h.elim hrest hc), ih, List.filter_cons_of_pos (by simp [Ne.symm hc])]
        rfl

theorem lastPerField_ordered (asked : List SearchCondition) :
    (lastPerField asked).Pairwise (fun c d => LastBefore asked c.field d.field) := by
  induction asked with
  | nil => exact .nil
  | cons c rest ih =>
    have hrest : (lastPerField rest).Pairwise
        (fun d e => LastBefore (c :: rest) d.field e.field) := by
      refine ih.imp (fun ⟨before, after, heq, hafter⟩ => ⟨c :: before, after, ?_, hafter⟩)
      rw [heq, List.cons_append]
    rw [lastPerField]
    split
    · exact hrest
    · rename_i hlast
      refine List.pairwise_cons.mpr ⟨fun d hd => ⟨[c], rest, rfl, ?_, ?_⟩, hrest⟩
      · intro e he hfield
        exact hlast (List.any_eq_true.mpr ⟨e, he, beq_iff_eq.mpr hfield⟩)
      · exact ⟨d, (lastPerField_sublist rest).subset hd, rfl⟩

theorem lastPerField_nodup (asked : List SearchCondition) :
    (lastPerField asked).Pairwise (fun c d => c.field ≠ d.field) := by
  refine (lastPerField_ordered asked).imp (fun ⟨_, _, _, hnone, e, he, hfield⟩ heq => ?_)
  exact hnone e he (hfield.trans heq.symm)

theorem lastOn?_cons (c : SearchCondition) (rest : List SearchCondition) (field : String) :
    lastOn? (c :: rest) field =
      (lastOn? rest field).or (if c.field = field then some c else none) := by
  simp only [lastOn?, List.reverse_cons, List.find?_append, List.find?_cons, List.find?_nil]
  by_cases hc : c.field = field
  · rw [if_pos hc, beq_iff_eq.mpr hc]
  · rw [if_neg hc, beq_eq_false_iff_ne.mpr hc]

theorem lastOn?_eq_none {field : String} :
    lastOn? asked field = none ↔ asked.any (fun c => c.field == field) = false := by
  simp [lastOn?]

theorem field_of_lastOn? {field : String} {c : SearchCondition} (h : lastOn? asked field = some c) :
    c.field = field := by
  simpa using List.find?_some h

theorem mem_of_lastOn? {field : String} {c : SearchCondition} (h : lastOn? asked field = some c) :
    c ∈ asked :=
  List.mem_reverse.mp (List.mem_of_find?_eq_some h)

theorem mem_lastPerField {c : SearchCondition} :
    c ∈ lastPerField asked ↔ lastOn? asked c.field = some c := by
  induction asked with
  | nil => simp [lastPerField, lastOn?]
  | cons d rest ih =>
    rw [lastPerField, lastOn?_cons]
    cases hrest : rest.any (fun e => e.field == d.field) with
    | true =>
      rw [if_pos rfl, ih]
      by_cases hfield : d.field = c.field
      · have hsome : lastOn? rest c.field ≠ none := by
          rw [Ne, lastOn?_eq_none, ← hfield, hrest]
          exact Bool.noConfusion
        obtain ⟨e, he⟩ := Option.ne_none_iff_exists'.mp hsome
        rw [he, Option.some_or]
      · rw [if_neg hfield, Option.or_none]
    | false =>
      have hnone : lastOn? rest d.field = none := lastOn?_eq_none.mpr hrest
      rw [if_neg Bool.false_ne_true, List.mem_cons, ih]
      by_cases hfield : d.field = c.field
      · rw [← hfield, hnone, if_pos rfl, Option.none_or]
        simp [eq_comm]
      · have hne : c ≠ d := fun heq => hfield (congrArg SearchCondition.field heq.symm)
        rw [if_neg hfield, Option.or_none, or_iff_right hne]

theorem mem_settled {c : SearchCondition} :
    c ∈ settled asked ↔ lastOn? asked c.field = some c ∧ isCleared c.value = false := by
  rw [settled, List.mem_filter, mem_lastPerField, Bool.not_eq_true']

theorem settled_nodup (asked : List SearchCondition) :
    (settled asked).Pairwise (fun c d => c.field ≠ d.field) :=
  (lastPerField_nodup asked).filter _

theorem settled_ordered (asked : List SearchCondition) :
    (settled asked).Pairwise (fun c d => LastBefore asked c.field d.field) :=
  (lastPerField_ordered asked).filter _

theorem settled_append (asked : List SearchCondition) (c : SearchCondition) :
    settled (asked ++ [c]) = (settled asked).filter (fun d => d.field ≠ c.field) ++
      if isCleared c.value then [] else [c] := by
  rw [settled, lastPerField_append, List.filter_append, List.filter_filter, settled,
    List.filter_filter]
  congr 1
  · exact List.filter_congr (fun d _ => Bool.and_comm _ _)
  · cases hc : isCleared c.value <;> simp [hc]

end Last

theorem removeFirst_eq_filter {conditions : List SearchCondition}
    (h : conditions.Pairwise (fun c d => c.field ≠ d.field)) (field : String) :
    removeFirst field conditions = conditions.filter (fun c => c.field ≠ field) := by
  induction conditions with
  | nil => rfl
  | cons c rest ih =>
    obtain ⟨hfirst, hrest⟩ := List.pairwise_cons.mp h
    rw [removeFirst]
    by_cases hc : c.field = field
    · rw [if_pos hc, List.filter_cons_of_neg (by simp [hc])]
      refine (List.filter_eq_self.mpr (fun d hd => ?_)).symm
      simpa [hc] using (hfirst d hd).symm
    · rw [if_neg hc, List.filter_cons_of_pos (by simp [hc]), ih hrest]

/-- An edit takes the settled conditions to those settled with it. -/
theorem applyEdit_settled (columns : List ColumnSchema) (asked : List SearchCondition)
    (edit : String × Json) :
    applyEdit columns (settled asked) edit.1 edit.2 =
      settled (asked ++ (asks? columns edit).toList) := by
  rw [asks?_eq]
  unfold applyEdit
  cases target? columns edit.1 with
  | none => simp
  | some target =>
    obtain ⟨field, operator⟩ := target
    simp only [Option.map_some, Option.toList_some]
    rw [settled_append, removeFirst_eq_filter (settled_nodup asked)]
    split
    · simp
    · rfl

theorem foldl_applyEdit_settled (columns : List ColumnSchema) (asked : List SearchCondition)
    (changed : Properties) :
    changed.foldl (fun conditions e => applyEdit columns conditions e.1 e.2) (settled asked) =
      settled (asked ++ changed.filterMap (asks? columns)) := by
  induction changed generalizing asked with
  | nil => simp
  | cons edit rest ih =>
    rw [List.foldl_cons, applyEdit_settled, ih]
    cases h : asks? columns edit <;> simp [h]

theorem mem_removeFirst {field : String} {conditions : List SearchCondition} {c : SearchCondition}
    (h : c ∈ removeFirst field conditions) : c ∈ conditions := by
  induction conditions with
  | nil => exact h
  | cons d rest ih =>
    rw [removeFirst] at h
    split at h
    · exact List.mem_cons_of_mem d h
    · rcases List.mem_cons.mp h with rfl | h
      · exact List.mem_cons_self
      · exact List.mem_cons_of_mem d (ih h)

theorem mem_applyEdit {columns : List ColumnSchema} {conditions : List SearchCondition}
    {edit : String × Json} {c : SearchCondition}
    (h : c ∈ applyEdit columns conditions edit.1 edit.2) :
    c ∈ conditions ∨ asks? columns edit = some c := by
  rw [asks?_eq]
  unfold applyEdit at h
  cases htarget : target? columns edit.1 with
  | none =>
    simp only [htarget] at h
    exact Or.inl h
  | some target =>
    simp only [htarget] at h
    split at h
    · exact Or.inl (mem_removeFirst h)
    · rcases List.mem_append.mp h with h | h
      · exact Or.inl (mem_removeFirst h)
      · exact Or.inr (congrArg some (List.mem_singleton.mp h).symm)

theorem mem_foldl_applyEdit {columns : List ColumnSchema} {conditions asked : List SearchCondition}
    (hasked : ∀ c ∈ conditions, c ∈ asked) (changed : Properties) :
    ∀ c ∈ changed.foldl (fun conditions e => applyEdit columns conditions e.1 e.2) conditions,
      c ∈ asked ++ changed.filterMap (asks? columns) := by
  induction changed generalizing conditions asked with
  | nil => simpa using hasked
  | cons edit rest ih =>
    have hstep : ∀ c ∈ applyEdit columns conditions edit.1 edit.2,
        c ∈ asked ++ (asks? columns edit).toList := by
      intro c hc
      rcases mem_applyEdit hc with hc | hc
      · exact List.mem_append_left _ (hasked c hc)
      · exact List.mem_append_right _ (by simp [hc])
    intro c hc
    have := ih hstep c hc
    cases hedit : asks? columns edit <;> simpa [hedit] using this

end SearchQuery

/-- The condition without the signs of the zeros in its value. -/
def SearchCondition.unsigned (c : SearchCondition) : SearchCondition :=
  { c with value := c.value.unsigned }

theorem SearchCondition.same_iff (c d : SearchCondition) :
    c.same d = true ↔ c.unsigned = d.unsigned := by
  simp only [same, Bool.and_eq_true, beq_iff_eq, Json.equal_iff, unsigned,
    SearchCondition.mk.injEq, and_assoc]

namespace SearchQuery

open SearchCondition (unsigned)

theorem sameConditions_iff (conditions conditions' : List SearchCondition) :
    sameConditions conditions conditions' = true ↔
      conditions.map unsigned = conditions'.map unsigned := by
  induction conditions generalizing conditions' with
  | nil => cases conditions' <;> simp [sameConditions]
  | cons c rest ih =>
    cases conditions' with
    | nil => simp [sameConditions]
    | cons d rest' =>
      simp only [sameConditions, Bool.and_eq_true, SearchCondition.same_iff, ih, List.map_cons,
        List.cons.injEq]

theorem removeFirst_unsigned (field : String) (conditions : List SearchCondition) :
    (removeFirst field conditions).map unsigned = removeFirst field (conditions.map unsigned) := by
  induction conditions with
  | nil => rfl
  | cons c rest ih =>
    simp only [removeFirst, List.map_cons, unsigned]
    split
    · rfl
    · rw [List.map_cons, ih]
      rfl

theorem foldl_applyEdit_unsigned (columns : List ColumnSchema) (changed : Properties)
    {conditions conditions' : List SearchCondition}
    (h : conditions.map unsigned = conditions'.map unsigned) :
    (changed.foldl (fun cs e => applyEdit columns cs e.1 e.2) conditions).map unsigned =
      (changed.foldl (fun cs e => applyEdit columns cs e.1 e.2) conditions').map unsigned := by
  induction changed generalizing conditions conditions' with
  | nil => exact h
  | cons edit rest ih =>
    have hstep : (applyEdit columns conditions edit.1 edit.2).map unsigned =
        (applyEdit columns conditions' edit.1 edit.2).map unsigned := by
      unfold applyEdit
      cases htarget : target? columns edit.1 with
      | none => simpa only [htarget] using h
      | some target =>
        dsimp only
        split
        · rw [removeFirst_unsigned, removeFirst_unsigned, h]
        · rw [List.map_append, List.map_append, removeFirst_unsigned, removeFirst_unsigned, h]
    exact ih hstep

end SearchQuery

/-- One call on a session. -/
inductive SearchStep where
  | apply (changed : Properties)
  | reset

namespace SearchSession

open SearchCondition (unsigned)
open SearchQuery (LastBefore asks? isCleared lastOn? settled)

def step (s : SearchSession) : SearchStep → SearchSession
  | .apply changed => (s.apply changed).2
  | .reset => s.reset

def run (s : SearchSession) (steps : List SearchStep) : SearchSession := steps.foldl step s

/-- The edits since the last reset; those of one call in ascending order of the names. -/
def editsSinceReset (steps : List SearchStep) : List (String × Json) :=
  steps.foldl (fun edits step =>
    match step with
    | .apply changed => edits ++ changed
    | .reset => []) []

/-- The conditions that the edits since the last reset ask for. -/
def askedSinceReset (table : TableSchema) (steps : List SearchStep) : List SearchCondition :=
  (editsSinceReset steps).filterMap (asks? table.columns)

/-- The session holds what the edits come down to, up to the signs of zeros. -/
structure Settles (s : SearchSession) (table : TableSchema) (edits : List (String × Json)) :
    Prop where
  table_eq : s.table = table
  conditions_eq : s.query.conditions.map unsigned =
    (settled (edits.filterMap (asks? table.columns))).map unsigned
  asked : ∀ c ∈ s.query.conditions, c ∈ edits.filterMap (asks? table.columns)

theorem settles_apply {s : SearchSession} {table : TableSchema} {edits : List (String × Json)}
    (h : s.Settles table edits) (changed : Properties) :
    (s.apply changed).2.Settles table (edits ++ changed) := by
  obtain ⟨rfl, hconditions, hasked⟩ := h
  have hnext := SearchQuery.foldl_applyEdit_unsigned s.table.columns changed hconditions
  rw [SearchQuery.foldl_applyEdit_settled, ← List.filterMap_append] at hnext
  unfold apply
  dsimp only
  split
  · rename_i hsame
    -- the query is kept, so its values may be those of earlier edits
    refine ⟨rfl, ?_, fun c hc => ?_⟩
    · exact ((SearchQuery.sameConditions_iff _ _).mp hsame).symm.trans hnext
    · rw [List.filterMap_append]
      exact List.mem_append_left _ (hasked c hc)
  · refine ⟨rfl, hnext, fun c hc => ?_⟩
    rw [List.filterMap_append]
    exact SearchQuery.mem_foldl_applyEdit hasked changed c hc

theorem settles_reset {s : SearchSession} {table : TableSchema} {edits : List (String × Json)}
    (h : s.Settles table edits) : s.reset.Settles table [] :=
  ⟨h.table_eq, rfl, nofun⟩

theorem settles_run (table : TableSchema) (steps : List SearchStep) :
    (run { table := table } steps).Settles table (editsSinceReset steps) := by
  have hrun : ∀ (s : SearchSession) (edits : List (String × Json)), s.Settles table edits →
      (run s steps).Settles table (steps.foldl (fun edits step =>
        match step with
        | .apply changed => edits ++ changed
        | .reset => []) edits) := by
    induction steps with
    | nil => exact fun _ _ h => h
    | cons first rest ih =>
      intro s edits h
      cases first with
      | apply changed => exact ih _ _ (settles_apply h changed)
      | reset => exact ih _ _ (settles_reset h)
  exact hrun _ _ ⟨rfl, rfl, nofun⟩

/-- The conditions held are those that the last edits ask for, in their order. A value may be that
of an earlier edit, when the two differ in the signs of zeros alone. -/
structure HoldsLastEdits (held asked : List SearchCondition) : Prop where
  one_a_field : held.Pairwise (fun c d => c.field ≠ d.field)
  field_iff : ∀ field, (∃ c ∈ held, c.field = field) ↔
    ∃ d, lastOn? asked field = some d ∧ isCleared d.value = false
  last : ∀ c ∈ held, c ∈ asked ∧ ∃ d, lastOn? asked c.field = some d ∧ c.operator = d.operator ∧
    c.value.unsigned = d.value.unsigned
  last_of_unsigned : ∀ c ∈ held,
    (∀ d ∈ asked, d.field = c.field → d.value.unsigned = d.value) → lastOn? asked c.field = some c
  ordered : held.Pairwise (fun c d => LastBefore asked c.field d.field)

theorem pairwise_fields_iff {conditions conditions' : List SearchCondition}
    {R : String → String → Prop}
    (h : conditions.map (fun c => c.field) = conditions'.map (fun c => c.field)) :
    conditions.Pairwise (fun c d => R c.field d.field) ↔
      conditions'.Pairwise (fun c d => R c.field d.field) := by
  rw [← List.pairwise_map (f := fun c : SearchCondition => c.field) (R := R), h, List.pairwise_map]

theorem holdsLastEdits {held asked : List SearchCondition} (hasked : ∀ c ∈ held, c ∈ asked)
    (h : held.map unsigned = (settled asked).map unsigned) : HoldsLastEdits held asked := by
  have hfields : held.map (fun c => c.field) = (settled asked).map (fun c => c.field) := by
    have hmap := congrArg (List.map (fun c : SearchCondition => c.field)) h
    rwa [List.map_map, List.map_map] at hmap
  have hlast : ∀ c ∈ held, ∃ d, lastOn? asked c.field = some d ∧ c.operator = d.operator ∧
      c.value.unsigned = d.value.unsigned := by
    intro c hc
    obtain ⟨d, hd, heq⟩ := List.mem_map.mp (h ▸ List.mem_map_of_mem hc)
    simp only [unsigned, SearchCondition.mk.injEq] at heq
    exact ⟨d, heq.1 ▸ (SearchQuery.mem_settled.mp hd).1, heq.2.1.symm, heq.2.2.symm⟩
  refine ⟨?_, fun field => ?_, fun c hc => ⟨hasked c hc, hlast c hc⟩, fun c hc hunsigned => ?_, ?_⟩
  · exact (pairwise_fields_iff (R := (· ≠ ·)) hfields).mpr (SearchQuery.settled_nodup asked)
  · have hmem : (∃ c ∈ held, c.field = field) ↔ ∃ d ∈ settled asked, d.field = field := by
      rw [← List.mem_map, hfields, List.mem_map]
    rw [hmem]
    constructor
    · rintro ⟨d, hd, rfl⟩
      exact ⟨d, SearchQuery.mem_settled.mp hd⟩
    · rintro ⟨d, hd, hcleared⟩
      have hfield : d.field = field := SearchQuery.field_of_lastOn? hd
      exact ⟨d, SearchQuery.mem_settled.mpr ⟨hfield ▸ hd, hcleared⟩, hfield⟩
  · obtain ⟨d, hd, hoperator, hvalue⟩ := hlast c hc
    have hfield : d.field = c.field := SearchQuery.field_of_lastOn? hd
    have heq : d = c := by
      rw [hunsigned c (hasked c hc) rfl,
        hunsigned d (SearchQuery.mem_of_lastOn? hd) hfield] at hvalue
      obtain ⟨field, operator, value⟩ := c
      exact congr (congr (congrArg SearchCondition.mk hfield) hoperator.symm) hvalue.symm
    exact heq ▸ hd
  · exact (pairwise_fields_iff (R := LastBefore asked) hfields).mpr
      (SearchQuery.settled_ordered asked)

/-- Over any calls, the query of a session holds the last edits since the last reset. -/
theorem run_holdsLastEdits (table : TableSchema) (steps : List SearchStep) :
    HoldsLastEdits (run { table := table } steps).query.conditions
      (askedSinceReset table steps) := by
  have h := settles_run table steps
  exact holdsLastEdits h.asked h.conditions_eq

def amountTable : TableSchema where
  columns := [(ColumnSchema.ofIndex "amount").withFilter { apply := true }]

/-- A zero, and then the same zero with its sign set. -/
def signedZero : List SearchStep :=
  [.apply [("amount", .float ⟨0⟩)], .apply [("amount", .float ⟨0x8000000000000000⟩)]]

theorem signedZero_holds_unsigned :
    ¬ ∀ c ∈ (run { table := amountTable } signedZero).query.conditions, ∀ d,
      lastOn? (askedSinceReset amountTable signedZero) c.field = some d → c.value = d.value := by
  intro h
  have hheld : (run { table := amountTable } signedZero).query.conditions =
      [⟨"amount", "eq", .float ⟨0⟩⟩] := rfl
  have hlast : lastOn? (askedSinceReset amountTable signedZero) "amount" =
      some ⟨"amount", "eq", .float ⟨0x8000000000000000⟩⟩ := rfl
  have hvalue := h _ (hheld ▸ List.mem_singleton_self _) _ hlast
  simp at hvalue

end SearchSession

end UiSchema
