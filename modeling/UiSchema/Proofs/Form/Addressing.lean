import UiSchema.Proofs.Form.Compilation
import UiSchema.Proofs.Form.Tree

/-!
# Fields stay addressed by their position

`Addressed parent f` says that the path stored in a field is where it stands: its name below the
path of the field or row around it, at every depth. Compiling makes addressed fields, and
renumbering a row moves them to the row of the new number.
-/

namespace UiSchema

set_option autoImplicit false

namespace FieldPath

theorem setIndex_append (p rest : FieldPath) (j i : Nat) :
    setIndex (p ++ .index j :: rest) p.length i = p ++ .index i :: rest := by
  induction p with
  | nil => rfl
  | cons step p ih => cases step <;> simp only [List.cons_append, List.length_cons, setIndex, ih]

theorem child_append (p rest : FieldPath) (step : Step) (name : String) :
    child (p ++ step :: rest) name = p ++ step :: child rest name := by
  simp only [child, List.append_assoc, List.cons_append]

theorem row_append (p rest : FieldPath) (step : Step) (i : Nat) :
    row (p ++ step :: rest) i = p ++ step :: row rest i := by
  simp only [row, List.append_assoc, List.cons_append]

end FieldPath

namespace CompiledField

/-- A field, and every field inside it, has the path of its position. -/
inductive Addressed : FieldPath → CompiledField → Prop
  | leaf {parent : FieldPath} {f : LeafField} :
      f.path = parent.child f.name → Addressed parent (.leaf f)
  | group {parent : FieldPath} {g : GroupField CompiledField} :
      g.path = parent.child g.name → (∀ f ∈ g.fields, Addressed g.path f) →
      Addressed parent (.group g)
  | repeated {parent : FieldPath} {g : RepeatGroup CompiledField} :
      g.path = parent.child g.name →
      (∀ (i : Nat) (row : List CompiledField), g.rows[i]? = some row →
        ∀ f ∈ row, Addressed (g.path.row i) f) →
      Addressed parent (.repeated g)

theorem Addressed.path_eq {parent : FieldPath} {f : CompiledField} (h : Addressed parent f) :
    f.path = parent.child f.name := by
  cases h with
  | leaf hpath => exact hpath
  | group hpath _ => exact hpath
  | repeated hpath _ => exact hpath

theorem Addressed.group_fields {parent : FieldPath} {g : GroupField CompiledField}
    (h : Addressed parent (.group g)) : ∀ f ∈ g.fields, Addressed g.path f := by
  cases h with
  | group _ hfields => exact hfields

theorem Addressed.repeated_rows {parent : FieldPath} {g : RepeatGroup CompiledField}
    (h : Addressed parent (.repeated g)) {i : Nat} {row : List CompiledField}
    (hi : g.rows[i]? = some row) : ∀ f ∈ row, Addressed (g.path.row i) f := by
  cases h with
  | repeated _ hrows => exact hrows i row hi

/-- Renumbering at the depth of a row index moves a field to the other row. -/
theorem Addressed.reindex {p rest : FieldPath} {j : Nat} (i : Nat) {f : CompiledField}
    (h : Addressed (p ++ .index j :: rest) f) :
    Addressed (p ++ .index i :: rest) (f.reindex p.length i) := by
  -- the induction goes down the tree, so the steps below the renumbered index grow
  generalize hparent : p ++ .index j :: rest = parent at h
  induction h generalizing rest with
  | leaf hpath =>
    subst hparent
    rw [reindex_leaf]
    refine .leaf ?_
    simp only [hpath, FieldPath.child_append, FieldPath.setIndex_append]
  | group hpath _ ih =>
    subst hparent
    rw [reindex_group]
    refine .group ?_ ?_
    · simp only [hpath, FieldPath.child_append, FieldPath.setIndex_append]
    · intro f hf
      obtain ⟨f, hmem, rfl⟩ := List.mem_map.mp hf
      rw [FieldPath.child_append] at hpath
      simp only [hpath, FieldPath.setIndex_append]
      exact ih f hmem hpath.symm
  | @repeated _ g hpath _ ih =>
    subst hparent
    rw [reindex_repeated]
    refine .repeated ?_ ?_
    · simp only [hpath, FieldPath.child_append, FieldPath.setIndex_append]
    · intro k row hrow f hf
      rw [List.getElem?_map] at hrow
      obtain ⟨row, hk, rfl⟩ := Option.map_eq_some_iff.mp hrow
      obtain ⟨f, hmem, rfl⟩ := List.mem_map.mp hf
      rw [FieldPath.child_append] at hpath
      simp only [hpath, FieldPath.setIndex_append, FieldPath.row_append]
      refine ih k row hk f hmem ?_
      rw [hpath, FieldPath.row_append]

theorem addressed_renumber {path : FieldPath} {rows : List (List CompiledField)} {start : Nat}
    (shift : Nat)
    (h : ∀ (i : Nat) (row : List CompiledField), rows[i]? = some row →
      ∀ f ∈ row, Addressed (path.row (start + i)) f)
    {i : Nat} {row : List CompiledField}
    (hi : (RepeatGroup.renumber path.length shift rows)[i]? = some row) :
    ∀ f ∈ row, Addressed (path.row (shift + i)) f := by
  induction rows generalizing start shift i with
  | nil => simp [RepeatGroup.renumber] at hi
  | cons first rest ih =>
    cases i with
    | zero =>
      simp only [RepeatGroup.renumber, List.getElem?_cons_zero, Option.some.injEq] at hi
      subst hi
      intro f hf
      rw [reindexList_eq_map] at hf
      obtain ⟨f, hmem, rfl⟩ := List.mem_map.mp hf
      exact Addressed.reindex _ (h 0 first rfl f hmem)
    | succ i =>
      simp only [RepeatGroup.renumber, List.getElem?_cons_succ] at hi
      have hrest : ∀ (k : Nat) (r : List CompiledField), rest[k]? = some r →
          ∀ f ∈ r, Addressed (path.row (start + 1 + k)) f := by
        intro k r hk f hf
        rw [show start + 1 + k = start + (k + 1) by omega]
        exact h (k + 1) r hk f hf
      have := ih (shift + 1) hrest hi
      rw [show shift + (i + 1) = shift + 1 + i by omega]
      exact this

end CompiledField

open CompiledField

namespace FieldSchema

/-- What a compiler makes stands below the path that it was given. -/
def Addresses (compile : Compiler) : Prop :=
  ∀ ⦃fields parent seed result⦄, compile fields parent seed = .ok result →
    ∀ f ∈ result, Addressed parent f

theorem addressed_of_compiles {compile : Compiler} (h : Addresses compile) {parent : FieldPath}
    {seed : Seed} {f : FieldSchema} {c : CompiledField} (hc : Compiles compile parent seed f c) :
    Addressed parent c := by
  cases hc with
  | leaf => exact .leaf rfl
  | group _ _ hfields => exact .group rfl (h hfields)
  | repeated _ _ hrows =>
    refine .repeated rfl (fun i row hi => ?_)
    obtain ⟨_, _, hrow⟩ := getElem?_of_compileRows hrows hi
    rw [Nat.zero_add] at hrow
    exact h hrow

theorem addresses_compileWithin (depth : Nat) : Addresses (compileWithin depth) := by
  refine compileWithin_of_level ?_ (fun compile h => ?_) depth
  · intro fields parent seed result hresult
    exact absurd hresult refuseAll_ne_ok
  · intro fields parent seed result hresult c hc
    obtain ⟨f, _, hf⟩ := mem_of_compileAll hresult hc
    exact addressed_of_compiles h (compileField_eq_ok.mp hf)

theorem addressed_of_compile {fields : List FieldSchema} {parent : FieldPath} {seed : Seed}
    {result : List CompiledField} (h : compile fields parent seed = .ok result) :
    ∀ f ∈ result, Addressed parent f :=
  addresses_compileWithin _ h

end FieldSchema

end UiSchema
