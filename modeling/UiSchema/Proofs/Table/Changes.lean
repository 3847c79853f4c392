import Mathlib.Data.List.Induction
import Mathlib.Data.List.Nodup
import UiSchema.Proofs.Table.LastEdits

/-!
# What a session reports as a change

A query is a conjunction, so it changes when the set of its conditions does. A session compares the
conditions as lists, and every condition that is asked for again goes to the end. So it reports each
change of the set, and besides it reports an edit that only moves conditions: that happens when a
condition is asked for again that stands before one which is not asked for after it.
-/

namespace UiSchema

set_option autoImplicit false

theorem SearchCondition.field_eq_of_unsigned {c d : SearchCondition}
    (h : c.unsigned = d.unsigned) : c.field = d.field := by
  have hfield := congrArg SearchCondition.field h
  exact hfield

namespace SearchQuery

open SearchCondition (unsigned)

/-- Both lists hold the same conditions, in any order and with values compared as values. -/
def SameSet (conditions conditions' : List SearchCondition) : Prop :=
  (∀ c ∈ conditions, ∃ d ∈ conditions', c.same d = true) ∧
    ∀ d ∈ conditions', ∃ c ∈ conditions, c.same d = true

def IsAsked (asked : List SearchCondition) (field : String) : Prop := ∃ c ∈ asked, c.field = field

/-- Behind a condition whose field is asked for stand only conditions asked for after it. -/
def KeepsOrder (conditions asked : List SearchCondition) : Prop :=
  conditions.Pairwise (fun c d => IsAsked asked c.field → LastBefore asked c.field d.field)

def asksFor (asked : List SearchCondition) (c : SearchCondition) : Bool :=
  asked.any (fun e => e.field == c.field)

theorem asksFor_iff {asked : List SearchCondition} {c : SearchCondition} :
    asksFor asked c = true ↔ IsAsked asked c.field := by
  simp only [asksFor, IsAsked, List.any_eq_true, beq_iff_eq]

theorem sameSet_iff {conditions conditions' : List SearchCondition} :
    SameSet conditions conditions' ↔
      ∀ x, x ∈ conditions.map unsigned ↔ x ∈ conditions'.map unsigned := by
  constructor
  · rintro ⟨hleft, hright⟩ x
    constructor
    · intro hx
      obtain ⟨c, hc, rfl⟩ := List.mem_map.mp hx
      obtain ⟨d, hd, hsame⟩ := hleft c hc
      exact List.mem_map.mpr ⟨d, hd, ((SearchCondition.same_iff c d).mp hsame).symm⟩
    · intro hx
      obtain ⟨d, hd, rfl⟩ := List.mem_map.mp hx
      obtain ⟨c, hc, hsame⟩ := hright d hd
      exact List.mem_map.mpr ⟨c, hc, (SearchCondition.same_iff c d).mp hsame⟩
  · intro h
    refine ⟨fun c hc => ?_, fun d hd => ?_⟩
    · obtain ⟨d, hd, heq⟩ := List.mem_map.mp ((h c.unsigned).mp (List.mem_map_of_mem hc))
      exact ⟨d, hd, (SearchCondition.same_iff c d).mpr heq.symm⟩
    · obtain ⟨c, hc, heq⟩ := List.mem_map.mp ((h d.unsigned).mpr (List.mem_map_of_mem hd))
      exact ⟨c, hc, (SearchCondition.same_iff c d).mpr heq⟩

theorem LastBefore.asymm {asked : List SearchCondition} {field field' : String}
    (h : LastBefore asked field field') : ¬LastBefore asked field' field := by
  obtain ⟨before, after, heq, hnone, c, hc, hfield⟩ := h
  rintro ⟨before', after', heq', hnone', d, hd, hfield'⟩
  have hsuffix : after <:+ asked := ⟨before, heq.symm⟩
  have hsuffix' : after' <:+ asked := ⟨before', heq'.symm⟩
  rcases List.suffix_or_suffix_of_suffix hsuffix hsuffix' with hinside | hinside
  · exact hnone' c (hinside.subset hc) hfield
  · exact hnone d (hinside.subset hd) hfield'

theorem LastBefore.isAsked {asked : List SearchCondition} {field field' : String}
    (h : LastBefore asked field field') : IsAsked asked field' := by
  obtain ⟨before, after, rfl, _, c, hc, hfield⟩ := h
  exact ⟨c, List.mem_append_right before hc, hfield⟩

section Amending

variable {conditions : List SearchCondition}

/-- What conditions come to when others are asked for: those on the same fields give way, and what
is asked for goes behind the rest. -/
def amended (conditions asked : List SearchCondition) : List SearchCondition :=
  conditions.filter (fun c => !asksFor asked c) ++ settled asked

theorem not_isAsked_of_kept {asked : List SearchCondition} {c : SearchCondition}
    (h : c ∈ conditions.filter (fun c => !asksFor asked c)) : ¬IsAsked asked c.field := by
  intro hasked
  have hnot := (List.mem_filter.mp h).2
  rw [asksFor_iff.mpr hasked] at hnot
  exact Bool.false_ne_true hnot

theorem amended_nil (conditions : List SearchCondition) : amended conditions [] = conditions := by
  have hfilter : conditions.filter (fun c => !asksFor [] c) = conditions :=
    List.filter_eq_self.mpr (fun _ _ => rfl)
  rw [amended, hfilter]
  exact List.append_nil conditions

theorem mem_amended {asked : List SearchCondition} {c : SearchCondition} :
    c ∈ amended conditions asked ↔
      (lastOn? asked c.field = none ∧ c ∈ conditions) ∨
        (lastOn? asked c.field = some c ∧ isCleared c.value = false) := by
  rw [amended, List.mem_append, mem_settled, List.mem_filter, Bool.not_eq_true', asksFor,
    ← lastOn?_eq_none, and_comm]

theorem amended_distinct (h : conditions.Pairwise (fun c d => c.field ≠ d.field))
    (asked : List SearchCondition) :
    (amended conditions asked).Pairwise (fun c d => c.field ≠ d.field) := by
  refine List.pairwise_append.mpr ⟨h.filter _, settled_nodup asked, ?_⟩
  intro c hc d hd heq
  exact not_isAsked_of_kept hc ⟨d, mem_of_lastOn? (mem_settled.mp hd).1, heq.symm⟩

/-- One more condition that is asked for. -/
theorem amended_append (conditions asked : List SearchCondition) (c : SearchCondition) :
    amended conditions (asked ++ [c]) =
      (amended conditions asked).filter (fun d => d.field ≠ c.field) ++
        if isCleared c.value then [] else [c] := by
  have hasks : ∀ d : SearchCondition, (!asksFor (asked ++ [c]) d) =
      (decide (d.field ≠ c.field) && !asksFor asked d) := by
    intro d
    by_cases hfield : d.field = c.field
    · simp [asksFor, hfield]
    · simp [asksFor, hfield, Ne.symm hfield]
  rw [amended, amended, settled_append, List.filter_append, List.filter_filter, List.append_assoc]
  simp only [hasks]

/-- What edits make of conditions in force. -/
theorem foldl_applyEdit_eq (columns : List ColumnSchema) (changed : Properties)
    (h : conditions.Pairwise (fun c d => c.field ≠ d.field)) :
    changed.foldl (fun cs e => applyEdit columns cs e.1 e.2) conditions =
      amended conditions (changed.filterMap (asks? columns)) := by
  induction changed using List.reverseRecOn with
  | nil => exact (amended_nil conditions).symm
  | append_singleton rest edit ih =>
    rw [List.foldl_append, ih, List.foldl_cons, List.foldl_nil, List.filterMap_append,
      List.filterMap_cons, List.filterMap_nil, asks?_eq, applyEdit]
    cases target? columns edit.1 with
    | none => simp
    | some target =>
      simp only [Option.map_some]
      rw [amended_append, removeFirst_eq_filter (amended_distinct h _)]
      split
      · rw [List.append_nil]
      · rfl

end Amending

/-- Where everything behind a marked element is marked, the unmarked elements come first. -/
theorem filter_append_filter {α : Type} {p : α → Bool} {l : List α}
    (h : l.Pairwise (fun a b => p a = true → p b = true)) :
    l.filter (fun a => !p a) ++ l.filter p = l := by
  induction l with
  | nil => rfl
  | cons a rest ih =>
    obtain ⟨hfirst, hrest⟩ := List.pairwise_cons.mp h
    by_cases ha : p a = true
    · have hall : ∀ b ∈ rest, p b = true := fun b hb => hfirst b hb ha
      have hnone : rest.filter (fun b => !p b) = [] := by
        apply List.filter_eq_nil_iff.mpr
        intro b hb
        rw [hall b hb]
        exact Bool.false_ne_true
      have hsome : rest.filter p = rest := List.filter_eq_self.mpr hall
      rw [List.filter_cons_of_neg (by simp [ha]), List.filter_cons_of_pos ha, hnone, hsome,
        List.nil_append]
    · rw [List.filter_cons_of_pos (by simp [ha]), List.filter_cons_of_neg ha, List.cons_append,
        ih hrest]

section Order

variable {conditions : List SearchCondition}

theorem keepsOrder_of_eq {conditions' asked : List SearchCondition}
    (h : conditions.map unsigned = conditions'.map unsigned) :
    KeepsOrder conditions asked ↔ KeepsOrder conditions' asked := by
  have hfields := congrArg (List.map (fun c : SearchCondition => c.field)) h
  rw [List.map_map, List.map_map] at hfields
  exact SearchSession.pairwise_fields_iff
    (R := fun field field' => IsAsked asked field → LastBefore asked field field') hfields

theorem keepsOrder_amended (conditions asked : List SearchCondition) :
    KeepsOrder (amended conditions asked) asked := by
  refine List.pairwise_append.mpr ⟨?_, ?_, ?_⟩
  · apply List.Pairwise.imp_of_mem (R := fun _ _ => True)
    · intro c d hc _ _ hasked
      exact absurd hasked (not_isAsked_of_kept hc)
    · exact List.pairwise_of_forall (fun _ _ => trivial)
  · apply (settled_ordered asked).imp
    intro c d hbefore _
    exact hbefore
  · intro c hc d _ hasked
    exact absurd hasked (not_isAsked_of_kept hc)

/-- With the order kept, conditions asked for anew are those that they replace. -/
theorem settled_eq_of_sameSet {asked : List SearchCondition}
    (h : conditions.Pairwise (fun c d => c.field ≠ d.field))
    (hset : SameSet conditions (amended conditions asked))
    (horder : KeepsOrder conditions asked) :
    (settled asked).map unsigned = (conditions.filter (asksFor asked)).map unsigned := by
  have hmem := sameSet_iff.mp hset
  have hdistinct : ∀ l : List SearchCondition, l.Pairwise (fun c d => c.field ≠ d.field) →
      (l.map unsigned).Nodup := by
    intro l hl
    apply List.pairwise_map.mpr
    apply hl.imp
    intro c d hne heq
    exact hne (SearchCondition.field_eq_of_unsigned heq)
  have hsame : ∀ x, x ∈ (settled asked).map unsigned ↔
      x ∈ (conditions.filter (asksFor asked)).map unsigned := by
    intro x
    constructor
    · intro hx
      obtain ⟨d, hd, rfl⟩ := List.mem_map.mp hx
      have hnext : d.unsigned ∈ (amended conditions asked).map unsigned :=
        List.mem_map_of_mem (List.mem_append_right _ hd)
      obtain ⟨c, hc, heq⟩ := List.mem_map.mp ((hmem d.unsigned).mpr hnext)
      have hfield : c.field = d.field := SearchCondition.field_eq_of_unsigned heq
      have hasked : IsAsked asked c.field :=
        ⟨d, mem_of_lastOn? (mem_settled.mp hd).1, hfield.symm⟩
      exact List.mem_map.mpr ⟨c, List.mem_filter.mpr ⟨hc, asksFor_iff.mpr hasked⟩, heq⟩
    · intro hx
      obtain ⟨c, hc, rfl⟩ := List.mem_map.mp hx
      obtain ⟨hc, hasked⟩ := List.mem_filter.mp hc
      obtain ⟨d, hd, heq⟩ := List.mem_map.mp ((hmem c.unsigned).mp (List.mem_map_of_mem hc))
      rcases List.mem_append.mp hd with hd | hd
      · -- what stays in front has a field that is not asked for
        have hfield : d.field = c.field := SearchCondition.field_eq_of_unsigned heq
        have hnot := (List.mem_filter.mp hd).2
        rw [asksFor, hfield, ← asksFor, hasked] at hnot
        exact absurd hnot Bool.false_ne_true
      · exact List.mem_map.mpr ⟨d, hd, heq⟩
  have hasymm : ∀ x y : SearchCondition, x ∈ (settled asked).map unsigned →
      y ∈ (conditions.filter (asksFor asked)).map unsigned →
      LastBefore asked x.field y.field → LastBefore asked y.field x.field → x = y := by
    intro x y _ _ hxy hyx
    exact absurd hyx hxy.asymm
  have hsettled : ((settled asked).map unsigned).Pairwise
      (fun x y => LastBefore asked x.field y.field) :=
    List.pairwise_map.mpr (settled_ordered asked)
  have hreplaced : ((conditions.filter (asksFor asked)).map unsigned).Pairwise
      (fun x y => LastBefore asked x.field y.field) := by
    apply List.pairwise_map.mpr
    refine List.Pairwise.imp_of_mem ?_ (horder.sublist List.filter_sublist)
    intro c d hc _ hbefore
    exact hbefore (asksFor_iff.mp (List.mem_filter.mp hc).2)
  have hperm := (List.perm_ext_iff_of_nodup (hdistinct _ (settled_nodup asked))
    (hdistinct _ (h.filter (asksFor asked)))).mpr hsame
  exact List.Perm.eq_of_pairwise hasymm hsettled hreplaced hperm

/-- Edits leave the list of conditions as it is when they leave their set and their order. -/
theorem amended_eq_iff (h : conditions.Pairwise (fun c d => c.field ≠ d.field))
    (asked : List SearchCondition) :
    (amended conditions asked).map unsigned = conditions.map unsigned ↔
      SameSet conditions (amended conditions asked) ∧ KeepsOrder conditions asked := by
  constructor
  · intro heq
    refine ⟨sameSet_iff.mpr (fun x => ?_), (keepsOrder_of_eq heq).mp (keepsOrder_amended _ _)⟩
    rw [heq]
  · rintro ⟨hset, horder⟩
    have hmarked : conditions.Pairwise
        (fun c d => asksFor asked c = true → asksFor asked d = true) := by
      apply horder.imp
      intro c d hbefore hasked
      exact asksFor_iff.mpr (hbefore (asksFor_iff.mp hasked)).isAsked
    have hsplit := congrArg (List.map unsigned) (filter_append_filter hmarked)
    rw [List.map_append] at hsplit
    rw [amended, List.map_append, settled_eq_of_sameSet h hset horder]
    exact hsplit

end Order

end SearchQuery

namespace SearchSession

open SearchCondition (unsigned)
open SearchQuery (IsAsked KeepsOrder LastBefore SameSet asks?)

/-- The conditions in force have fields of their own. -/
theorem distinct_run (table : TableSchema) (steps : List SearchStep) :
    (run { table := table } steps).query.conditions.Pairwise (fun c d => c.field ≠ d.field) := by
  have h := settles_run table steps
  exact (holdsLastEdits h.asked h.conditions_eq).one_a_field

theorem apply_cases (s : SearchSession) (changed : Properties) :
    ((s.apply changed) = (false, s) ∧
      (s.query.applyChange changed s.table.columns).conditions.map unsigned =
        s.query.conditions.map unsigned) ∨
    ((s.apply changed).1 = true ∧
      (s.apply changed).2.query = s.query.applyChange changed s.table.columns ∧
      (s.query.applyChange changed s.table.columns).conditions.map unsigned ≠
        s.query.conditions.map unsigned) := by
  unfold apply
  dsimp only
  split
  · rename_i hsame
    exact Or.inl ⟨rfl, (SearchQuery.sameConditions_iff _ _).mp hsame⟩
  · rename_i hdiffers
    exact Or.inr ⟨rfl, rfl, fun heq => hdiffers ((SearchQuery.sameConditions_iff _ _).mpr heq)⟩

/-- A session that was used in any way reports an edit as a change exactly when the set of the
conditions differs after it, or when a condition asked for again stands before one that is not
asked for after it. An edit that is not reported leaves the session as it is. -/
theorem apply_reports_iff (table : TableSchema) (steps : List SearchStep) (changed : Properties) :
    (((run { table := table } steps).apply changed).1 = true ↔
      ¬SameSet (run { table := table } steps).query.conditions
          ((run { table := table } steps).apply changed).2.query.conditions ∨
        ¬KeepsOrder (run { table := table } steps).query.conditions
          (changed.filterMap (asks? table.columns))) ∧
    (((run { table := table } steps).apply changed).1 = false →
      ((run { table := table } steps).apply changed).2 = run { table := table } steps) := by
  have hdistinct := distinct_run table steps
  have htable := (settles_run table steps).table_eq
  generalize run { table := table } steps = s at hdistinct htable ⊢
  subst htable
  have hnext : (s.query.applyChange changed s.table.columns).conditions = _ :=
    SearchQuery.foldl_applyEdit_eq s.table.columns changed hdistinct
  have hiff := SearchQuery.amended_eq_iff hdistinct (changed.filterMap (asks? s.table.columns))
  rw [← hnext] at hiff
  rcases s.apply_cases changed with ⟨hkept, heq⟩ | ⟨hreported, hquery, hne⟩
  · obtain ⟨_, horder⟩ := hiff.mp heq
    have hrefl : SameSet s.query.conditions s.query.conditions :=
      SearchQuery.sameSet_iff.mpr (fun _ => Iff.rfl)
    rw [hkept]
    refine ⟨iff_of_false Bool.false_ne_true ?_, fun _ => rfl⟩
    rintro (hset | hmoved)
    · exact hset hrefl
    · exact hmoved horder
  · rw [hreported, hquery]
    refine ⟨iff_of_true rfl ?_, fun h => absurd h.symm Bool.false_ne_true⟩
    by_cases hset : SameSet s.query.conditions
        (s.query.applyChange changed s.table.columns).conditions
    · exact Or.inr (fun horder => hne (hiff.mpr ⟨hset, horder⟩))
    · exact Or.inl hset

def peopleTable : TableSchema where
  columns := [(ColumnSchema.ofIndex "name").withFilter { apply := true },
    (ColumnSchema.ofIndex "town").withFilter { apply := true }]

/-- A session that searches for a name and a town. -/
def peopleSearch : SearchSession :=
  run { table := peopleTable } [.apply [("name", .str "ann"), ("town", .str "Ulm")]]

theorem reentry_reported :
    (peopleSearch.apply [("name", .str "ann")]).1 = true ∧
      SameSet peopleSearch.query.conditions
        (peopleSearch.apply [("name", .str "ann")]).2.query.conditions := by
  refine ⟨by decide, ?_⟩
  unfold SameSet
  decide

end SearchSession

end UiSchema
