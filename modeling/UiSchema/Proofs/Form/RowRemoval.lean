import UiSchema.Proofs.Form.RowEdits

/-!
# Removing a row is never having had it

A list of fields compiles the same way in every row, up to the number of the row in the paths. So
the rows that move up when one is removed are those that compiling the remaining values gives.
Removing the row that was added last undoes the addition.
-/

namespace UiSchema

set_option autoImplicit false

open CompiledField

namespace FieldSchema

/-- A compiler gives the same fields in every row, up to the row's number. -/
def Renumbers (compile : Compiler) : Prop :=
  ∀ ⦃fields p j rest seed result⦄ (i : Nat),
    compile fields (p ++ .index j :: rest) seed = .ok result →
    compile fields (p ++ .index i :: rest) seed = .ok (result.map (reindex p.length i))

section Levels

variable {compile : Compiler} (h : Renumbers compile)
include h

theorem compileRows_reindex {fields : List FieldSchema} {p rest : FieldPath} {j index : Nat}
    {values : List Json} {rows : List (List CompiledField)} (i : Nat)
    (hrows : compileRows compile fields (p ++ .index j :: rest) index values = .ok rows) :
    compileRows compile fields (p ++ .index i :: rest) index values =
      .ok (rows.map (List.map (reindex p.length i))) := by
  induction values generalizing index rows with
  | nil =>
    cases hrows
    rfl
  | cons v values ih =>
    simp only [compileRows, bind_eq_ok, Except.ok.injEq, FieldPath.row_append] at hrows ⊢
    obtain ⟨first, hfirst, others, hothers, rfl⟩ := hrows
    exact ⟨_, h i hfirst, _, ih hothers, rfl⟩

theorem compiles_reindex {p rest : FieldPath} {j : Nat} {seed : Seed} {f : FieldSchema}
    {c : CompiledField} (i : Nat) (hc : Compiles compile (p ++ .index j :: rest) seed f c) :
    Compiles compile (p ++ .index i :: rest) seed f (c.reindex p.length i) := by
  cases hc with
  | leaf hobject harray =>
    rw [reindex_leaf]
    simp only [FieldPath.child_append, FieldPath.setIndex_append]
    rw [← FieldPath.child_append]
    exact .leaf hobject harray
  | group hkind hnested hfields =>
    rw [FieldPath.child_append] at hnested hfields
    rw [reindex_group]
    simp only [FieldPath.child_append, FieldPath.setIndex_append]
    rw [← FieldPath.child_append]
    refine .group hkind (nestedFields_path hnested _) ?_
    rw [FieldPath.child_append]
    exact h i hfields
  | repeated hkind hnested hrows =>
    rw [FieldPath.child_append] at hnested hrows
    rw [reindex_repeated]
    simp only [FieldPath.child_append, FieldPath.setIndex_append]
    rw [← FieldPath.child_append]
    refine .repeated hkind (nestedFields_path hnested _) ?_
    rw [FieldPath.child_append]
    exact compileRows_reindex h i hrows

theorem renumbers_compileLevel : Renumbers (compileLevel compile) := by
  intro fields p j rest seed result i hresult
  refine compileAll_map (fun f c hf => ?_) hresult
  exact compileField_eq_ok.mpr (compiles_reindex h i (compileField_eq_ok.mp hf))

/-- Rows compiled one place further down are renumbered to those compiled here. -/
theorem compileRows_renumber {fields : List FieldSchema} {path : FieldPath} {k : Nat}
    {values : List Json} {rows : List (List CompiledField)}
    (hrows : compileRows compile fields path (k + 1) values = .ok rows) :
    compileRows compile fields path k values =
      .ok (RepeatGroup.renumber path.length k rows) := by
  induction values generalizing k rows with
  | nil =>
    cases hrows
    rfl
  | cons v values ih =>
    simp only [compileRows, bind_eq_ok, Except.ok.injEq] at hrows ⊢
    obtain ⟨first, hfirst, others, hothers, rfl⟩ := hrows
    refine ⟨_, h k hfirst, _, ih hothers, ?_⟩
    simp only [RepeatGroup.renumber, reindexList_eq_map]

theorem compileRows_eraseIdx {fields : List FieldSchema} {path : FieldPath} {values : List Json}
    {rows : List (List CompiledField)} {i : Nat} (hi : i < values.length)
    (hrows : compileRows compile fields path 0 values = .ok rows) :
    compileRows compile fields path 0 (values.eraseIdx i) =
      .ok (rows.take i ++ RepeatGroup.renumber path.length i (rows.drop (i + 1))) := by
  have hsplit : values = values.take i ++ (values[i] :: values.drop (i + 1)) := by
    rw [← List.drop_eq_getElem_cons hi, List.take_append_drop]
  have hfront : (values.take i).length = i := List.length_take_of_le (Nat.le_of_lt hi)
  rw [hsplit] at hrows
  obtain ⟨above, below, habove, hbelow, rfl⟩ := compileRows_append.mp hrows
  simp only [hfront, compileRows, bind_eq_ok, Except.ok.injEq, Nat.zero_add] at hbelow
  obtain ⟨removed, _, behind, hbehind, rfl⟩ := hbelow
  have hlength : above.length = i := by rw [length_of_compileRows habove, hfront]
  have htake : (above ++ removed :: behind).take i = above := List.take_left' hlength
  have hdrop : (above ++ removed :: behind).drop (i + 1) = behind := by
    rw [← hlength, List.drop_append, List.drop_eq_nil_of_le (Nat.le_succ _)]
    simp
  rw [List.eraseIdx_eq_take_drop_succ, htake, hdrop]
  refine compileRows_append.mpr ⟨above, _, habove, ?_, rfl⟩
  rw [hfront, Nat.zero_add]
  exact compileRows_renumber h hbehind

end Levels

theorem renumbers_refuseAll : Renumbers refuseAll := by
  intro fields p j rest seed result i hresult
  exact absurd hresult refuseAll_ne_ok

/-- One field by itself is compiled with the same inner compiler below every path. -/
theorem compile_singleton (f : FieldSchema) :
    ∃ inner, Renumbers inner ∧ ∀ parent seed result,
      compile [f] parent seed = .ok result ↔
        ∃ c, Compiles inner parent seed f c ∧ result = [c] := by
  obtain ⟨inner, hinner, hlevel⟩ :=
    exists_compileLevel renumbers_refuseAll (fun _ h => renumbers_compileLevel h) [f]
  refine ⟨inner, hinner, fun parent seed result => ?_⟩
  simp only [hlevel, compileLevel, sortByOrder, List.foldr_cons, List.foldr_nil,
    insertOrdered, compileAll, bind_eq_ok, Except.ok.injEq, compileField_eq_ok]
  constructor
  · rintro ⟨c, hc, _, rfl, rfl⟩
    exact ⟨c, hc, rfl⟩
  · rintro ⟨c, hc, rfl⟩
    exact ⟨c, hc, [], rfl, rfl⟩

end FieldSchema

namespace RepeatGroup

theorem remove_of_add {g new : RepeatGroup CompiledField} {index : Nat}
    (h : g.add = .ok (index, new)) : new.remove index = (true, g) := by
  obtain ⟨row, _, rfl, rfl⟩ := add_eq_ok.mp h
  rw [remove_of_lt (by simp)]
  simp [renumber]

end RepeatGroup

/-- Removing a row of a compiled repeat group leaves the group compiled without that row's value. -/
theorem FieldSchema.remove_compiled_row (f : FieldSchema) (hkind : f.kind = .objectArray)
    (parent : FieldPath) (given : Properties) (values : List Json) {fields : List CompiledField}
    (h : compile [f] parent (.values (some (Dict.insert given f.name (.arr values)))) =
      .ok fields) :
    ∃ g, fields = [.repeated g] ∧ g.rows.length = values.length ∧
      (∀ i, i < g.rows.length → ∃ left, g.remove i = (true, left) ∧
        compile [f] parent (.values (some (Dict.insert given f.name (.arr (values.eraseIdx i))))) =
          .ok [.repeated left]) ∧
      (∀ i, g.rows.length ≤ i → g.remove i = (false, g)) ∧
      ∀ (group new : RepeatGroup CompiledField) (index : Nat), group.add = .ok (index, new) →
        new.remove index = (true, group) := by
  obtain ⟨inner, hinner, hcompile⟩ := compile_singleton f
  have hseed (rows : List Json) :
      (((Seed.values (some (Dict.insert given f.name (.arr rows)))).initial? f).bind
        Json.items?).getD [] = rows := by
    simp [Seed.initial?, Seed.get?, Dict.get?_insert_self, Json.items?]
  obtain ⟨c, hc, rfl⟩ := (hcompile _ _ _).mp h
  cases hc with
  | leaf _ harray => exact absurd hkind harray
  | group hobject _ _ => rw [hkind] at hobject; cases hobject
  | repeated _ hnested hrows =>
    rw [hseed] at hrows
    have hlength := length_of_compileRows hrows
    refine ⟨_, rfl, hlength, ?_, ?_, ?_⟩
    · intro i hi
      refine ⟨_, RepeatGroup.remove_of_lt hi, (hcompile _ _ _).mpr ⟨_, ?_, rfl⟩⟩
      refine .repeated hkind hnested ?_
      rw [hseed]
      exact compileRows_eraseIdx hinner (by simpa only [hlength] using hi) hrows
    · intro i hi
      exact RepeatGroup.remove_of_le hi
    · intro group new index hadd
      exact RepeatGroup.remove_of_add hadd

theorem order_without_first_row :
    ∃ g left, orderItems.kind = .objectArray ∧
      FieldSchema.compile [orderItems] [.key "batch", .index 3]
        (.values (some (Dict.insert [] orderItems.name (.arr orderRows)))) = .ok [.repeated g] ∧
      0 < g.rows.length ∧ g.remove 0 = (true, left) ∧
      FieldSchema.compile [orderItems] [.key "batch", .index 3]
        (.values (some (Dict.insert [] orderItems.name (.arr (orderRows.eraseIdx 0))))) =
          .ok [.repeated left] := by
  obtain ⟨fields, h⟩ : ∃ fields, FieldSchema.compile [orderItems] [.key "batch", .index 3]
      (.values (some (Dict.insert [] orderItems.name (.arr orderRows)))) = .ok fields := ⟨_, rfl⟩
  obtain ⟨g, rfl, hlength, hremove, _⟩ :=
    FieldSchema.remove_compiled_row orderItems rfl _ [] orderRows h
  have hpos : 0 < g.rows.length := by
    rw [hlength]
    decide
  obtain ⟨left, hleft, hcompile⟩ := hremove 0 hpos
  exact ⟨g, left, rfl, h, hpos, hleft, hcompile⟩

end UiSchema
