import UiSchema.Proofs.Form.Construction

/-!
# Fields that are shown alike

Two fields are alike when they differ at most in the list inside them, and these lists, put in
display order, are made of fields that are alike, or neither of them can be read. Lists of such
fields compile alike: both fail, or both give the same leaves in the same places. Rows that are added
and removed later keep this, since the item fields that the rows are made of are alike too.
-/

namespace UiSchema

set_option autoImplicit false

open CompiledField

/-- Both computations fail, or both succeed with results that are related. -/
inductive SameOutcome {ε α β : Type} (R : α → β → Prop) : Except ε α → Except ε β → Prop
  | error (e e' : ε) : SameOutcome R (.error e) (.error e')
  | ok {a : α} {b : β} : R a b → SameOutcome R (.ok a) (.ok b)

namespace SameOutcome

variable {ε α β γ δ : Type} {R : α → β → Prop} {S : γ → δ → Prop}
variable {x : Except ε α} {y : Except ε β}

theorem bind (h : SameOutcome R x y) {next : α → Except ε γ} {next' : β → Except ε δ}
    (hnext : ∀ a b, R a b → SameOutcome S (next a) (next' b)) :
    SameOutcome S (x >>= next) (y >>= next') := by
  cases h with
  | error e e' => exact .error e e'
  | ok hab => exact hnext _ _ hab

theorem imp (h : SameOutcome R x y) {R' : α → β → Prop} (hR : ∀ a b, R a b → R' a b) :
    SameOutcome R' x y := by
  cases h with
  | error e e' => exact .error e e'
  | ok hab => exact .ok (hR _ _ hab)

theorem refl {R : α → α → Prop} (hR : ∀ a, R a a) (x : Except ε α) : SameOutcome R x x := by
  cases x with
  | error e => exact .error e e
  | ok a => exact .ok (hR a)

theorem trans {R : α → α → Prop} (hR : ∀ a b c, R a b → R b c → R a c) {x y z : Except ε α}
    (h : SameOutcome R x y) (h' : SameOutcome R y z) : SameOutcome R x z := by
  cases h with
  | error e e' =>
    cases h' with
    | error _ e'' => exact .error e e''
  | ok hab =>
    cases h' with
    | ok hbc => exact .ok (hR _ _ _ hab hbc)

end SameOutcome

namespace FieldSchema

/-- The fields differ at most in their lists, which are alike in display order, or cannot be read. -/
inductive Alike : FieldSchema → FieldSchema → Prop
  | same (f : FieldSchema) : Alike f f
  | nested {f : FieldSchema} {key : NestedKey} {properties : Option Properties}
      {nested nested' : List FieldSchema} : f.nestedKey? = some key →
      f.nestedFields key "" = .ok nested →
      nestedFields { f with properties := properties } key "" = .ok nested' →
      List.Forall₂ Alike (sortByOrder nested) (sortByOrder nested') →
      Alike f { f with properties := properties }
  | unreadable {f : FieldSchema} {key : NestedKey} {properties : Option Properties} :
      f.nestedKey? = some key → (∀ nested, f.nestedFields key "" ≠ .ok nested) →
      (∀ nested, nestedFields { f with properties := properties } key "" ≠ .ok nested) →
      Alike f { f with properties := properties }

namespace Alike

variable {f g : FieldSchema}

theorem exists_properties (h : Alike f g) :
    ∃ properties, g = { f with properties := properties } := by
  cases h with
  | same f => exact ⟨f.properties, rfl⟩
  | nested => exact ⟨_, rfl⟩
  | unreadable => exact ⟨_, rfl⟩

theorem orderKey_eq (h : Alike f g) : g.orderKey = f.orderKey := by
  obtain ⟨properties, rfl⟩ := h.exists_properties
  rfl

theorem eq_of_plain (h : Alike f g) (hkey : f.nestedKey? = none) : g = f := by
  cases h with
  | same f => rfl
  | nested hsome => rw [hkey] at hsome; cases hsome
  | unreadable hsome => rw [hkey] at hsome; cases hsome

theorem forall₂_refl (fields : List FieldSchema) : List.Forall₂ Alike fields fields :=
  List.forall₂_same.mpr (fun f _ => .same f)

/-- The lists inside of fields that are alike are alike in display order. -/
theorem nestedFields (h : Alike f g) {key : NestedKey} (hkey : f.nestedKey? = some key)
    (path : String) :
    SameOutcome (fun nested nested' => List.Forall₂ Alike (sortByOrder nested) (sortByOrder nested'))
      (f.nestedFields key path) (g.nestedFields key path) := by
  cases h with
  | same f => exact .refl (fun nested => forall₂_refl (sortByOrder nested)) _
  | nested hsome hnested hnested' halike =>
    rw [hkey, Option.some.injEq] at hsome
    subst hsome
    rw [nestedFields_path hnested path, nestedFields_path hnested' path]
    exact .ok halike
  | @unreadable _ _ properties hsome hnone hnone' =>
    rw [hkey, Option.some.injEq] at hsome
    subst hsome
    cases hread : f.nestedFields key path with
    | ok nested => exact absurd (nestedFields_path hread "") (hnone nested)
    | error e =>
      cases hread' : FieldSchema.nestedFields { f with properties := properties } key path with
      | ok nested => exact absurd (nestedFields_path hread' "") (hnone' nested)
      | error e' => exact .error e e'

end Alike

section Sorting

variable {R : FieldSchema → FieldSchema → Prop} (hR : ∀ f g, R f g → g.orderKey = f.orderKey)
include hR

theorem forall₂_insertOrdered {f g : FieldSchema} (hfg : R f g) {fields other : List FieldSchema}
    (h : List.Forall₂ R fields other) :
    List.Forall₂ R (insertOrdered f fields) (insertOrdered g other) := by
  induction h with
  | nil => exact .cons hfg .nil
  | cons hfirst hrest ih =>
    rw [insertOrdered, insertOrdered, hR f g hfg, hR _ _ hfirst]
    split
    · exact .cons hfg (.cons hfirst hrest)
    · exact .cons hfirst ih

theorem forall₂_sortByOrder {fields other : List FieldSchema} (h : List.Forall₂ R fields other) :
    List.Forall₂ R (sortByOrder fields) (sortByOrder other) := by
  induction h with
  | nil => exact .nil
  | cons hfirst _ ih => exact forall₂_insertOrdered hR hfirst ih

end Sorting

end FieldSchema

namespace CompiledField

/-- The compiled fields have the same shape and the same leaves; what is kept for further rows is
alike. -/
inductive Alike : CompiledField → CompiledField → Prop
  | leaf (f : LeafField) : Alike (.leaf f) (.leaf f)
  | group (path : FieldPath) (name label : String) {fields fields' : List CompiledField} :
      List.Forall₂ Alike fields fields' →
      Alike (.group ⟨path, name, label, fields⟩) (.group ⟨path, name, label, fields'⟩)
  | repeated (path : FieldPath) (name label : String) {items items' : List FieldSchema}
      {rows rows' : List (List CompiledField)} :
      List.Forall₂ FieldSchema.Alike items items' → List.Forall₂ (List.Forall₂ Alike) rows rows' →
      Alike (.repeated ⟨path, name, label, items, rows⟩) (.repeated ⟨path, name, label, items', rows'⟩)

theorem leavesOf_eq_of_forall₂ {fields fields' : List CompiledField}
    (h : List.Forall₂ (fun c c' => c'.leaves = c.leaves) fields fields') :
    leavesOf fields' = leavesOf fields := by
  induction h with
  | nil => rfl
  | cons hfirst _ ih => rw [leavesOf, leavesOf, hfirst, ih]

theorem leavesOfRows_eq_of_forall₂ {rows rows' : List (List CompiledField)}
    (h : List.Forall₂ (fun row row' => leavesOf row' = leavesOf row) rows rows') :
    leavesOfRows rows' = leavesOfRows rows := by
  induction h with
  | nil => rfl
  | cons hfirst _ ih => rw [leavesOfRows, leavesOfRows, hfirst, ih]

theorem Alike.leaves_eq {c c' : CompiledField} (h : Alike c c') : c'.leaves = c.leaves := by
  induction c using CompiledField.induction generalizing c' with
  | leaf f =>
    cases h
    rfl
  | group g ih =>
    cases h with
    | group path name label hfields =>
      rw [leaves, leaves]
      exact leavesOf_eq_of_forall₂ (forall₂_of_mem hfields (fun c hc _ => ih c hc))
  | repeated g ih =>
    cases h with
    | repeated path name label hitems hrows =>
      rw [leaves, leaves]
      exact leavesOfRows_eq_of_forall₂ (forall₂_of_mem hrows (fun row hrow _ hfields =>
        leavesOf_eq_of_forall₂ (forall₂_of_mem hfields (fun c hc _ => ih row hrow c hc))))

theorem leavesOf_eq_of_alike {fields fields' : List CompiledField}
    (h : List.Forall₂ Alike fields fields') : leavesOf fields' = leavesOf fields :=
  leavesOf_eq_of_forall₂ (h.imp (fun _ _ hc => hc.leaves_eq))

theorem Alike.reindex {c c' : CompiledField} (h : Alike c c') (depth i : Nat) :
    Alike (c.reindex depth i) (c'.reindex depth i) := by
  induction c using CompiledField.induction generalizing c' with
  | leaf f =>
    cases h
    rw [reindex_leaf]
    exact .leaf _
  | group g ih =>
    cases h with
    | group path name label hfields =>
      rw [reindex_group, reindex_group]
      refine .group _ _ _ (List.forall₂_map_left_iff.mpr (List.forall₂_map_right_iff.mpr ?_))
      exact forall₂_of_mem hfields (fun c hc _ => ih c hc)
  | repeated g ih =>
    cases h with
    | repeated path name label hitems hrows =>
      rw [reindex_repeated, reindex_repeated]
      refine .repeated _ _ _ hitems
        (List.forall₂_map_left_iff.mpr (List.forall₂_map_right_iff.mpr ?_))
      refine forall₂_of_mem hrows (fun row hrow _ hfields => ?_)
      refine List.forall₂_map_left_iff.mpr (List.forall₂_map_right_iff.mpr ?_)
      exact forall₂_of_mem hfields (fun c hc _ => ih row hrow c hc)

end CompiledField

namespace FieldSchema

/-- Two compilers treat lists alike whose fields are alike, up to some nesting. -/
def AgreeBelow (n m : Nat) (one other : Compiler) : Prop :=
  ∀ ⦃fields fields'⦄, nestingOf fields < n → nestingOf fields' < m →
    List.Forall₂ Alike (sortByOrder fields) (sortByOrder fields') → ∀ parent seed,
      SameOutcome (List.Forall₂ CompiledField.Alike) (one fields parent seed)
        (other fields' parent seed)

section Levels

variable {one other : Compiler} {parent : FieldPath} {seed : Seed}

theorem sameOutcome_compileRows {fields fields' : List FieldSchema} {path : FieldPath}
    (h : ∀ parent seed, SameOutcome (List.Forall₂ CompiledField.Alike) (one fields parent seed)
      (other fields' parent seed)) (index : Nat) (values : List Json) :
    SameOutcome (List.Forall₂ (List.Forall₂ CompiledField.Alike))
      (compileRows one fields path index values) (compileRows other fields' path index values) := by
  induction values generalizing index with
  | nil => exact .ok .nil
  | cons v rest ih =>
    rw [compileRows, compileRows]
    refine (h _ _).bind (fun row row' hrow => (ih (index + 1)).bind (fun rows rows' hrows => ?_))
    exact .ok (.cons hrow hrows)

theorem sameOutcome_compileAll {one other : FieldSchema → Except SchemaError CompiledField}
    {fields fields' : List FieldSchema}
    (h : List.Forall₂ (fun f g => SameOutcome CompiledField.Alike (one f) (other g)) fields fields') :
    SameOutcome (List.Forall₂ CompiledField.Alike) (compileAll one fields)
      (compileAll other fields') := by
  induction h with
  | nil => exact .ok .nil
  | cons hfirst _ ih =>
    rw [compileAll, compileAll]
    refine hfirst.bind (fun c c' hc => ih.bind (fun rest rest' hrest => ?_))
    exact .ok (.cons hc hrest)

theorem nestingOf_sortByOrder (fields : List FieldSchema) :
    nestingOf (sortByOrder fields) ≤ nestingOf fields :=
  nestingOf_le (fun _ hf => nesting_le_nestingOf (mem_sortByOrder.mp hf))

theorem Alike.compileField {f g : FieldSchema} (h : Alike f g) {n m : Nat}
    (hbelow : AgreeBelow n m one other) (hn : f.nesting ≤ n) (hm : g.nesting ≤ m) :
    SameOutcome CompiledField.Alike (compileField one parent seed f)
      (compileField other parent seed g) := by
  have hlists {key : NestedKey} (hkey : f.nestedKey? = some key) (path : String) :
      SameOutcome (fun nested nested' => nestingOf nested < n ∧ nestingOf nested' < m ∧
        List.Forall₂ Alike (sortByOrder nested) (sortByOrder nested'))
        (f.nestedFields key path) (g.nestedFields key path) := by
    have hnested := h.nestedFields hkey path
    generalize hread : f.nestedFields key path = read at hnested ⊢
    generalize hread' : g.nestedFields key path = read' at hnested ⊢
    cases hnested with
    | error e e' => exact .error e e'
    | ok halike =>
      have hlt := nestingOf_lt_nesting hread
      have hlt' := nestingOf_lt_nesting hread'
      exact .ok ⟨by omega, by omega, halike⟩
  obtain ⟨properties, hg⟩ := h.exists_properties
  have hkind : g.kind = f.kind := by rw [hg]
  have hname : g.name = f.name := by rw [hg]
  have hlabel : g.label = f.label := by rw [hg]
  have hinitial : seed.initial? g = seed.initial? f := by rw [hg]; rfl
  have hinside : seed.nested g = seed.nested f := by rw [hg]; rfl
  by_cases hobject : f.kind = .object
  · simp only [FieldSchema.compileField, hkind, hobject, hname, hlabel, hinside]
    refine (hlists (nestedKey?_eq_fields.mpr hobject) _).bind (fun nested nested' hnested => ?_)
    obtain ⟨hlt, hlt', halike⟩ := hnested
    exact (hbelow hlt hlt' halike _ _).bind (fun _ _ hfields => .ok (.group _ _ _ hfields))
  by_cases harray : f.kind = .objectArray
  · simp only [FieldSchema.compileField, hkind, harray, hname, hlabel, hinitial]
    refine (hlists (nestedKey?_eq_itemFields.mpr harray) _).bind (fun nested nested' hnested => ?_)
    obtain ⟨hlt, hlt', halike⟩ := hnested
    have hsorted : List.Forall₂ Alike (sortByOrder (sortByOrder nested))
        (sortByOrder (sortByOrder nested')) := by
      rw [sortByOrder_sortByOrder, sortByOrder_sortByOrder]
      exact halike
    have hrow (parent : FieldPath) (seed : Seed) := hbelow
      (Nat.lt_of_le_of_lt (nestingOf_sortByOrder nested) hlt)
      (Nat.lt_of_le_of_lt (nestingOf_sortByOrder nested') hlt') hsorted parent seed
    refine (sameOutcome_compileRows hrow 0 _).bind (fun _ _ hrows => ?_)
    exact .ok (.repeated _ _ _ halike hrows)
  · have hsame : g = f := h.eq_of_plain (nestedKey?_eq_none.mpr ⟨hobject, harray⟩)
    rw [hsame, compileField_eq_ok.mpr (Compiles.leaf hobject harray),
      compileField_eq_ok.mpr (Compiles.leaf hobject harray)]
    exact .ok (.leaf _)

theorem AgreeBelow.compileLevel {n m : Nat} (h : AgreeBelow n m one other) :
    AgreeBelow (n + 1) (m + 1) (compileLevel one) (compileLevel other) := by
  intro fields fields' hn hm halike parent seed
  refine sameOutcome_compileAll ?_
  have hmem : ∀ f ∈ sortByOrder fields, f.nesting ≤ n := fun f hf =>
    Nat.le_trans (nesting_le_nestingOf (mem_sortByOrder.mp hf)) (Nat.le_of_lt_succ hn)
  have hmem' : ∀ g ∈ sortByOrder fields', g.nesting ≤ m := fun g hg =>
    Nat.le_trans (nesting_le_nestingOf (mem_sortByOrder.mp hg)) (Nat.le_of_lt_succ hm)
  have hright : List.Forall₂ (fun f g => Alike f g ∧ g.nesting ≤ m) (sortByOrder fields)
      (sortByOrder fields') := forall₂_of_mem_right halike (fun g hg _ hfg => ⟨hfg, hmem' g hg⟩)
  exact forall₂_of_mem hright (fun f hf _ hfg => hfg.1.compileField h (hmem f hf) hfg.2)

theorem agreeBelow_refuseAll (n : Nat) : AgreeBelow 0 n refuseAll other :=
  fun _ _ hn => absurd hn (Nat.not_lt_zero _)

theorem agreeBelow_of_refuseAll (n : Nat) : AgreeBelow n 0 one refuseAll :=
  fun _ _ _ hm => absurd hm (Nat.not_lt_zero _)

theorem agreeBelow_compileWithin (n m : Nat) :
    AgreeBelow (n + 1) (m + 1) (compileWithin n) (compileWithin m) := by
  induction n generalizing m with
  | zero =>
    cases m with
    | zero => exact (agreeBelow_refuseAll 0).compileLevel
    | succ m => exact (agreeBelow_refuseAll (m + 1)).compileLevel
  | succ n ih =>
    cases m with
    | zero => exact (agreeBelow_of_refuseAll (n + 1)).compileLevel
    | succ m => exact (ih m).compileLevel

end Levels

/-- Lists that are alike in display order compile alike. -/
theorem sameOutcome_compile {fields fields' : List FieldSchema}
    (h : List.Forall₂ Alike (sortByOrder fields) (sortByOrder fields')) (parent : FieldPath)
    (seed : Seed) :
    SameOutcome (List.Forall₂ CompiledField.Alike) (compile fields parent seed)
      (compile fields' parent seed) :=
  agreeBelow_compileWithin _ _ (Nat.lt_succ_self _) (Nat.lt_succ_self _) h parent seed

end FieldSchema

namespace RepeatGroup

variable {g g' : RepeatGroup CompiledField}

theorem alike_renumber {rows rows' : List (List CompiledField)}
    (h : List.Forall₂ (List.Forall₂ CompiledField.Alike) rows rows') (depth start : Nat) :
    List.Forall₂ (List.Forall₂ CompiledField.Alike) (renumber depth start rows)
      (renumber depth start rows') := by
  induction h generalizing start with
  | nil => exact .nil
  | cons hfirst _ ih =>
    rw [renumber, renumber, reindexList_eq_map, reindexList_eq_map]
    refine .cons (List.forall₂_map_left_iff.mpr (List.forall₂_map_right_iff.mpr ?_)) (ih _)
    exact hfirst.imp (fun _ _ hc => hc.reindex depth start)

theorem sameOutcome_add (h : CompiledField.Alike (.repeated g) (.repeated g')) :
    SameOutcome (fun p p' => CompiledField.Alike (.repeated p.2) (.repeated p'.2)) g.add g'.add := by
  cases h with
  | repeated path name label hitems hrows =>
    rw [add, add, hrows.length_eq]
    have hsorted := FieldSchema.forall₂_sortByOrder (fun _ _ hf => hf.orderKey_eq) hitems
    refine (FieldSchema.sameOutcome_compile hsorted _ _).bind (fun row row' hrow => ?_)
    exact .ok (.repeated _ _ _ hitems (List.rel_append hrows (.cons hrow .nil)))

theorem alike_grow (h : CompiledField.Alike (.repeated g) (.repeated g')) :
    CompiledField.Alike (.repeated (grow g).2) (.repeated (grow g').2) := by
  have hadd := sameOutcome_add h
  rw [grow, grow]
  generalize g.add = result at hadd ⊢
  generalize g'.add = result' at hadd ⊢
  cases hadd with
  | error e e' => exact h
  | ok hnew => exact hnew

theorem alike_remove (h : CompiledField.Alike (.repeated g) (.repeated g')) (index : Nat) :
    CompiledField.Alike (.repeated (g.remove index).2) (.repeated (g'.remove index).2) := by
  cases h with
  | repeated path name label hitems hrows =>
    rw [remove, remove, hrows.length_eq]
    split
    · refine .repeated _ _ _ hitems (List.rel_append (List.forall₂_take _ hrows) ?_)
      exact alike_renumber (List.forall₂_drop _ hrows) _ _
    · exact .repeated _ _ _ hitems hrows

end RepeatGroup

namespace CompiledField

section Actions

variable {α : Type} (name : String) (act : RepeatAction α)

theorem alike_actOnRepeatIn {fields fields' : List CompiledField}
    (h : List.Forall₂ (fun c c' => Alike c c' ∧
      Option.Rel (fun p p' => Alike p.2 p'.2) (actOnRepeat name act c) (actOnRepeat name act c'))
        fields fields') :
    Option.Rel (fun p p' => List.Forall₂ Alike p.2 p'.2) (actOnRepeatIn name act fields)
      (actOnRepeatIn name act fields') := by
  induction h with
  | nil => exact .none
  | @cons c c' rest rest' hfirst hrest ih =>
    obtain ⟨hc, hact⟩ := hfirst
    rw [actOnRepeatIn, actOnRepeatIn]
    generalize actOnRepeat name act c = result at hact ⊢
    generalize actOnRepeat name act c' = result' at hact ⊢
    cases hact with
    | some hreplaced => exact .some (.cons hreplaced (hrest.imp (fun _ _ hother => hother.1)))
    | none =>
      generalize actOnRepeatIn name act rest = others at ih ⊢
      generalize actOnRepeatIn name act rest' = others' at ih ⊢
      cases ih with
      | some hothers => exact .some (.cons hc hothers)
      | none => exact .none

theorem alike_actOnRepeatInRows {rows rows' : List (List CompiledField)}
    (h : List.Forall₂ (fun row row' => List.Forall₂ Alike row row' ∧
      Option.Rel (fun p p' => List.Forall₂ Alike p.2 p'.2) (actOnRepeatIn name act row)
        (actOnRepeatIn name act row')) rows rows') :
    Option.Rel (fun p p' => List.Forall₂ (List.Forall₂ Alike) p.2 p'.2)
      (actOnRepeatInRows name act rows) (actOnRepeatInRows name act rows') := by
  induction h with
  | nil => exact .none
  | @cons row row' rest rest' hfirst hrest ih =>
    obtain ⟨hrow, hact⟩ := hfirst
    rw [actOnRepeatInRows, actOnRepeatInRows]
    generalize actOnRepeatIn name act row = result at hact ⊢
    generalize actOnRepeatIn name act row' = result' at hact ⊢
    cases hact with
    | some hreplaced => exact .some (.cons hreplaced (hrest.imp (fun _ _ hother => hother.1)))
    | none =>
      generalize actOnRepeatInRows name act rest = others at ih ⊢
      generalize actOnRepeatInRows name act rest' = others' at ih ⊢
      cases ih with
      | some hothers => exact .some (.cons hrow hothers)
      | none => exact .none

variable (hact : ∀ g g', Alike (.repeated g) (.repeated g') →
  Alike (.repeated (act g).2) (.repeated (act g').2))
include hact

/-- An action that keeps repeat groups alike keeps fields alike, and finds its group in both or in
neither. -/
theorem Alike.actOnRepeat {c c' : CompiledField} (h : Alike c c') :
    Option.Rel (fun p p' => Alike p.2 p'.2) (actOnRepeat name act c) (actOnRepeat name act c') := by
  induction c using CompiledField.induction generalizing c' with
  | leaf f =>
    cases h
    rw [CompiledField.actOnRepeat]
    exact .none
  | group g ih =>
    cases h with
    | @group path own label fields fields' hfields =>
      have hinside := alike_actOnRepeatIn name act
        (forall₂_of_mem hfields (fun c hc _ halike => ⟨halike, ih c hc halike⟩))
      rw [CompiledField.actOnRepeat, CompiledField.actOnRepeat]
      generalize actOnRepeatIn name act fields = result at hinside ⊢
      generalize actOnRepeatIn name act fields' = result' at hinside ⊢
      cases hinside with
      | some hreplaced => exact .some (.group _ _ _ hreplaced)
      | none => exact .none
  | repeated g ih =>
    cases h with
    | @repeated path own label items items' rows rows' hitems hrows =>
      rw [CompiledField.actOnRepeat, CompiledField.actOnRepeat]
      split
      · exact .some (hact _ _ (.repeated _ _ _ hitems hrows))
      · have hinside := alike_actOnRepeatInRows name act
          (forall₂_of_mem hrows (fun row hrow _ hfields => ⟨hfields, alike_actOnRepeatIn name act
            (forall₂_of_mem hfields (fun c hc _ halike => ⟨halike, ih row hrow c hc halike⟩))⟩))
        generalize actOnRepeatInRows name act rows = result at hinside ⊢
        generalize actOnRepeatInRows name act rows' = result' at hinside ⊢
        cases hinside with
        | some hreplaced => exact .some (.repeated _ _ _ hitems hreplaced)
        | none => exact .none

theorem alike_acted {fields fields' : List CompiledField} (h : List.Forall₂ Alike fields fields') :
    List.Forall₂ Alike (((actOnRepeatIn name act fields).map Prod.snd).getD fields)
      (((actOnRepeatIn name act fields').map Prod.snd).getD fields') := by
  have hrel := alike_actOnRepeatIn name act
    (h.imp (fun _ _ hc => ⟨hc, hc.actOnRepeat name act hact⟩))
  generalize actOnRepeatIn name act fields = result at hrel ⊢
  generalize actOnRepeatIn name act fields' = result' at hrel ⊢
  cases hrel with
  | some hacted => exact hacted
  | none => exact h

end Actions

end CompiledField

namespace CompiledForm

variable {form form' : CompiledForm}

theorem addRow_fields (form : CompiledForm) (name : String) :
    (form.addRow name).2.fields =
      ((actOnRepeatIn name RepeatGroup.grow form.fields).map Prod.snd).getD form.fields := by
  rw [addRow]
  cases actOnRepeatIn name RepeatGroup.grow form.fields <;> rfl

theorem removeRow_fields (form : CompiledForm) (name : String) (index : Nat) :
    (form.removeRow name index).2.fields =
      ((actOnRepeatIn name (fun g => g.remove index) form.fields).map Prod.snd).getD
        form.fields := by
  rw [removeRow]
  cases actOnRepeatIn name (fun g => g.remove index) form.fields <;> rfl

theorem alike_edit (h : List.Forall₂ CompiledField.Alike form.fields form'.fields)
    (edit : RowEdit) :
    List.Forall₂ CompiledField.Alike (form.edit edit).fields (form'.edit edit).fields := by
  cases edit with
  | add name =>
    rw [CompiledForm.edit, CompiledForm.edit, addRow_fields, addRow_fields]
    exact alike_acted name _ (fun _ _ hg => RepeatGroup.alike_grow hg) h
  | remove name index =>
    rw [CompiledForm.edit, CompiledForm.edit, removeRow_fields, removeRow_fields]
    exact alike_acted name _ (fun _ _ hg => RepeatGroup.alike_remove hg index) h

/-- Forms that are alike stay alike whatever rows are added and removed. -/
theorem alike_edited (h : List.Forall₂ CompiledField.Alike form.fields form'.fields)
    (edits : List RowEdit) :
    List.Forall₂ CompiledField.Alike (form.edited edits).fields (form'.edited edits).fields := by
  induction edits generalizing form form' with
  | nil => exact h
  | cons edit rest ih => exact ih (alike_edit h edit)

end CompiledForm

end UiSchema
