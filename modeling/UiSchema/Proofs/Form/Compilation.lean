import UiSchema.Form.Compile
import UiSchema.Proofs.Decode.Codec

/-!
# What compiling gives

A compiled field is a leaf, a group of fields compiled below its path, or rows compiled below its
path and their numbers. The compiler of nested lists is a parameter of these statements; what holds
of the compiler that refuses everything and passes from nested lists to a list holds at every depth.
-/

namespace UiSchema

set_option autoImplicit false

namespace FieldSchema

theorem nestedFields_path {f : FieldSchema} {key : NestedKey} {path : String}
    {nested : List FieldSchema} (h : f.nestedFields key path = .ok nested) (other : String) :
    f.nestedFields key other = .ok nested := by
  unfold nestedFields at h ⊢
  cases hv : f.property? key.name with
  | none => simp [hv] at h
  | some v =>
    simp only [hv, mapError_eq_ok] at h ⊢
    exact h

theorem mem_insertOrdered {f g : FieldSchema} {fields : List FieldSchema} :
    g ∈ insertOrdered f fields ↔ g = f ∨ g ∈ fields := by
  induction fields with
  | nil => rw [insertOrdered, List.mem_cons]
  | cons first rest ih =>
    rw [insertOrdered]
    split
    · rw [List.mem_cons]
    · rw [List.mem_cons, List.mem_cons, ih, or_left_comm]

theorem mem_sortByOrder {g : FieldSchema} {fields : List FieldSchema} :
    g ∈ sortByOrder fields ↔ g ∈ fields := by
  induction fields with
  | nil => rfl
  | cons f rest ih =>
    rw [sortByOrder, List.foldr_cons, ← sortByOrder, mem_insertOrdered, ih, List.mem_cons]

/-- The three ways in which a field is compiled. -/
inductive Compiles (compile : Compiler) (parent : FieldPath) (seed : Seed) (f : FieldSchema) :
    CompiledField → Prop
  | leaf : f.kind ≠ .object → f.kind ≠ .objectArray →
      Compiles compile parent seed f (.leaf ⟨parent.child f.name, f.name, f.label, f.kind,
        f.required, seed.initial? f, f.rules, f.properties⟩)
  | group {nested : List FieldSchema} {fields : List CompiledField} : f.kind = .object →
      f.nestedFields .fields (parent.child f.name).text = .ok nested →
      compile nested (parent.child f.name) (seed.nested f) = .ok fields →
      Compiles compile parent seed f (.group ⟨parent.child f.name, f.name, f.label, fields⟩)
  | repeated {nested : List FieldSchema} {rows : List (List CompiledField)} :
      f.kind = .objectArray →
      f.nestedFields .itemFields (parent.child f.name).text = .ok nested →
      compileRows compile (sortByOrder nested) (parent.child f.name) 0
        (((seed.initial? f).bind Json.items?).getD []) = .ok rows →
      Compiles compile parent seed f
        (.repeated ⟨parent.child f.name, f.name, f.label, sortByOrder nested, rows⟩)

theorem compileField_eq_ok {compile : Compiler} {parent : FieldPath} {seed : Seed} {f : FieldSchema}
    {c : CompiledField} :
    compileField compile parent seed f = .ok c ↔ Compiles compile parent seed f c := by
  constructor
  · intro h
    unfold compileField at h
    dsimp only at h
    split at h
    · rename_i hkind
      simp only [bind_eq_ok, Except.ok.injEq] at h
      obtain ⟨nested, hnested, fields, hfields, rfl⟩ := h
      exact .group hkind hnested hfields
    · rename_i hkind
      simp only [bind_eq_ok, Except.ok.injEq] at h
      obtain ⟨nested, hnested, rows, hrows, rfl⟩ := h
      exact .repeated hkind hnested hrows
    · rename_i hobject harray
      cases h
      exact .leaf hobject harray
  · intro h
    unfold compileField
    cases h with
    | leaf hobject harray =>
      dsimp only
      split
      · contradiction
      · contradiction
      · rfl
    | group hkind hnested hfields =>
      simp only [hkind, bind_eq_ok]
      exact ⟨_, hnested, _, hfields, rfl⟩
    | repeated hkind hnested hrows =>
      simp only [hkind, bind_eq_ok]
      exact ⟨_, hnested, _, hrows, rfl⟩

theorem mem_of_compileAll {one : FieldSchema → Except SchemaError CompiledField}
    {fields : List FieldSchema} {result : List CompiledField}
    (h : compileAll one fields = .ok result) {c : CompiledField} (hc : c ∈ result) :
    ∃ f ∈ fields, one f = .ok c := by
  induction fields generalizing result with
  | nil =>
    cases h
    cases hc
  | cons f rest ih =>
    simp only [compileAll, bind_eq_ok, Except.ok.injEq] at h
    obtain ⟨first, hfirst, others, hothers, rfl⟩ := h
    rcases List.mem_cons.mp hc with rfl | hc
    · exact ⟨f, List.mem_cons_self, hfirst⟩
    · obtain ⟨g, hg, hone⟩ := ih hothers hc
      exact ⟨g, List.mem_cons_of_mem f hg, hone⟩

theorem exists_compileAll {one : FieldSchema → Except SchemaError CompiledField}
    {fields : List FieldSchema} :
    (∃ result, compileAll one fields = .ok result) ↔ ∀ f ∈ fields, ∃ c, one f = .ok c := by
  induction fields with
  | nil => exact ⟨fun _ => List.forall_mem_nil _, fun _ => ⟨[], rfl⟩⟩
  | cons f rest ih =>
    simp only [compileAll, bind_eq_ok, Except.ok.injEq, List.forall_mem_cons, ← ih]
    constructor
    · rintro ⟨_, c, hc, others, hothers, rfl⟩
      exact ⟨⟨c, hc⟩, others, hothers⟩
    · rintro ⟨⟨c, hc⟩, others, hothers⟩
      exact ⟨_, c, hc, others, hothers, rfl⟩

theorem compileAll_map {one other : FieldSchema → Except SchemaError CompiledField}
    {change : CompiledField → CompiledField}
    (hone : ∀ f c, one f = .ok c → other f = .ok (change c)) {fields : List FieldSchema}
    {result : List CompiledField} (h : compileAll one fields = .ok result) :
    compileAll other fields = .ok (result.map change) := by
  induction fields generalizing result with
  | nil =>
    cases h
    rfl
  | cons f rest ih =>
    simp only [compileAll, bind_eq_ok, Except.ok.injEq] at h
    obtain ⟨first, hfirst, others, hothers, rfl⟩ := h
    simp only [compileAll, bind_eq_ok]
    exact ⟨_, hone f first hfirst, _, ih hothers, rfl⟩

section Rows

variable {compile : Compiler} {fields : List FieldSchema} {path : FieldPath}

theorem getElem?_of_compileRows {index : Nat} {values : List Json}
    {rows : List (List CompiledField)}
    (h : compileRows compile fields path index values = .ok rows) {i : Nat}
    {row : List CompiledField} (hi : rows[i]? = some row) :
    ∃ value, values[i]? = some value ∧
      compile fields (path.row (index + i)) (.ofRow value) = .ok row := by
  induction values generalizing index rows i with
  | nil =>
    cases h
    simp at hi
  | cons v rest ih =>
    simp only [compileRows, bind_eq_ok, Except.ok.injEq] at h
    obtain ⟨first, hfirst, others, hothers, rfl⟩ := h
    cases i with
    | zero =>
      cases hi
      exact ⟨v, rfl, hfirst⟩
    | succ i =>
      obtain ⟨value, hvalue, hrow⟩ := ih hothers hi
      refine ⟨value, hvalue, ?_⟩
      rw [show index + (i + 1) = index + 1 + i by omega]
      exact hrow

theorem length_of_compileRows {index : Nat} {values : List Json}
    {rows : List (List CompiledField)}
    (h : compileRows compile fields path index values = .ok rows) :
    rows.length = values.length := by
  induction values generalizing index rows with
  | nil =>
    cases h
    rfl
  | cons v rest ih =>
    simp only [compileRows, bind_eq_ok, Except.ok.injEq] at h
    obtain ⟨first, _, others, hothers, rfl⟩ := h
    simp only [List.length_cons, ih hothers]

theorem compileRows_append {index : Nat} {front back : List Json}
    {rows : List (List CompiledField)} :
    compileRows compile fields path index (front ++ back) = .ok rows ↔
      ∃ above below, compileRows compile fields path index front = .ok above ∧
        compileRows compile fields path (index + front.length) back = .ok below ∧
        rows = above ++ below := by
  induction front generalizing index rows with
  | nil =>
    constructor
    · intro h
      exact ⟨[], rows, rfl, h, rfl⟩
    · rintro ⟨above, below, habove, hbelow, rfl⟩
      cases habove
      exact hbelow
  | cons v rest ih =>
    simp only [List.cons_append, compileRows, bind_eq_ok, Except.ok.injEq, ih,
      List.length_cons]
    rw [show index + (rest.length + 1) = index + 1 + rest.length by omega]
    constructor
    · rintro ⟨first, hfirst, _, ⟨above, below, habove, hbelow, rfl⟩, rfl⟩
      exact ⟨first :: above, below, ⟨first, hfirst, above, habove, rfl⟩, hbelow, rfl⟩
    · rintro ⟨_, below, ⟨first, hfirst, above, habove, rfl⟩, hbelow, rfl⟩
      exact ⟨first, hfirst, _, ⟨above, below, habove, hbelow, rfl⟩, rfl⟩

end Rows

/-- The compiler below the deepest level, where no field has lists inside it. -/
def refuseAll : Compiler := fun _ path _ => .error (.missingNested path.text .fields)

theorem refuseAll_ne_ok {fields : List FieldSchema} {path : FieldPath} {seed : Seed}
    {result : List CompiledField} : refuseAll fields path seed ≠ .ok result := nofun

/-- One level of compiling, over a compiler for the lists inside the fields. -/
def compileLevel (compile : Compiler) : Compiler := fun fields parent seed =>
  compileAll (compileField compile parent seed) (sortByOrder fields)

/-- What the compiler that refuses every list has, and a level of compiling keeps, holds at every
depth. -/
theorem compileWithin_of_level {P : Compiler → Prop}
    (refuse : P refuseAll)
    (level : ∀ compile, P compile → P (compileLevel compile)) (depth : Nat) :
    P (compileWithin depth) := by
  induction depth with
  | zero => exact level _ refuse
  | succ depth ih => exact level _ ih

/-- Compiling is one level over a compiler that has what every level keeps. -/
theorem exists_compileLevel {P : Compiler → Prop} (refuse : P refuseAll)
    (level : ∀ compile, P compile → P (compileLevel compile)) (fields : List FieldSchema) :
    ∃ inner, P inner ∧ ∀ parent seed,
      compile fields parent seed = compileLevel inner fields parent seed := by
  unfold compile
  cases nestingOf fields with
  | zero => exact ⟨refuseAll, refuse, fun _ _ => rfl⟩
  | succ depth =>
    exact ⟨compileWithin depth, compileWithin_of_level refuse level depth, fun _ _ => rfl⟩

end FieldSchema

end UiSchema
