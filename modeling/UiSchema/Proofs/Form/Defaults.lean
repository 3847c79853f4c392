import UiSchema.Proofs.Form.Construction

/-!
# Starting with a default that is given

Two seeds give one compiled tree exactly when every field starts the same from both: a leaf with one
value, a group with all its fields, a list with as many rows that start the same. A field that is
given its own value starts as it does without a seed, unless it is a group: without a seed a group
passes nothing of its value on, and the fields inside it start with their own values.
-/

namespace UiSchema

set_option autoImplicit false

open CompiledField

/-- The values that rows are made of. -/
def Seed.rows (seed : Seed) (f : FieldSchema) : List Json :=
  ((seed.initial? f).bind Json.items?).getD []

namespace FieldSchema

/-- The field starts the same from both seeds. -/
inductive SameStart : FieldSchema → Seed → Seed → Prop
  | leaf {f : FieldSchema} {s s' : Seed} : f.kind ≠ .object → f.kind ≠ .objectArray →
      s.initial? f = s'.initial? f → SameStart f s s'
  | group {f : FieldSchema} {s s' : Seed} {nested : List FieldSchema} : f.kind = .object →
      f.nestedFields .fields "" = .ok nested →
      (∀ g ∈ nested, SameStart g (s.nested f) (s'.nested f)) → SameStart f s s'
  | repeated {f : FieldSchema} {s s' : Seed} {nested : List FieldSchema} : f.kind = .objectArray →
      f.nestedFields .itemFields "" = .ok nested → (s.rows f).length = (s'.rows f).length →
      (∀ rows ∈ (s.rows f).zip (s'.rows f), ∀ g ∈ nested,
        SameStart g (.ofRow rows.1) (.ofRow rows.2)) → SameStart f s s'

section Kinds

variable {f : FieldSchema} {s s' : Seed} {nested : List FieldSchema} {path : String}

theorem sameStart_leaf (hobject : f.kind ≠ .object) (harray : f.kind ≠ .objectArray) :
    SameStart f s s' ↔ s.initial? f = s'.initial? f := by
  constructor
  · intro h
    cases h with
    | leaf _ _ hinitial => exact hinitial
    | group hkind => exact absurd hkind hobject
    | repeated hkind => exact absurd hkind harray
  · exact .leaf hobject harray

theorem sameStart_group (hkind : f.kind = .object)
    (hnested : f.nestedFields .fields path = .ok nested) :
    SameStart f s s' ↔ ∀ g ∈ nested, SameStart g (s.nested f) (s'.nested f) := by
  have hnested := nestedFields_path hnested ""
  constructor
  · intro h
    cases h with
    | leaf hobject => exact absurd hkind hobject
    | group _ hfound hinside =>
      cases hfound.symm.trans hnested
      exact hinside
    | repeated harray =>
      rw [hkind] at harray
      cases harray
  · exact .group hkind hnested

theorem sameStart_repeated (hkind : f.kind = .objectArray)
    (hnested : f.nestedFields .itemFields path = .ok nested) :
    SameStart f s s' ↔ (s.rows f).length = (s'.rows f).length ∧
      ∀ rows ∈ (s.rows f).zip (s'.rows f), ∀ g ∈ nested,
        SameStart g (.ofRow rows.1) (.ofRow rows.2) := by
  have hnested := nestedFields_path hnested ""
  constructor
  · intro h
    cases h with
    | leaf _ harray => exact absurd hkind harray
    | group hobject =>
      rw [hkind] at hobject
      cases hobject
    | repeated _ hfound hlength hrows =>
      cases hfound.symm.trans hnested
      exact ⟨hlength, hrows⟩
  · rintro ⟨hlength, hrows⟩
    exact .repeated hkind hnested hlength hrows

end Kinds

/-- A compiler that makes one tree from two seeds exactly when all fields start the same. -/
def TellsStarts (compile : Compiler) : Prop :=
  ∀ ⦃fields parent s s' result⦄, compile fields parent s = .ok result →
    (compile fields parent s' = .ok result ↔ ∀ f ∈ fields, SameStart f s s')

/-- A list is made exactly when its first item and the others are. -/
theorem exists_cons_eq_iff {α : Type} {first : α} {others : List α} {P : α → Prop}
    {Q : List α → Prop} :
    (∃ a, P a ∧ ∃ as, Q as ∧ a :: as = first :: others) ↔ P first ∧ Q others := by
  constructor
  · rintro ⟨a, ha, as, has, heq⟩
    cases heq
    exact ⟨ha, has⟩
  · rintro ⟨hfirst, hothers⟩
    exact ⟨first, hfirst, others, hothers, rfl⟩

theorem compileAll_eq_iff {one other : FieldSchema → Except SchemaError CompiledField}
    {fields : List FieldSchema} {result : List CompiledField}
    (h : compileAll one fields = .ok result) :
    compileAll other fields = .ok result ↔ ∀ f ∈ fields, other f = one f := by
  induction fields generalizing result with
  | nil => exact iff_of_true h (List.forall_mem_nil _)
  | cons f rest ih =>
    simp only [compileAll, bind_eq_ok, Except.ok.injEq] at h ⊢
    obtain ⟨first, hfirst, others, hothers, rfl⟩ := h
    rw [List.forall_mem_cons, hfirst, ← ih hothers]
    exact exists_cons_eq_iff

section Levels

variable {compile : Compiler} {parent : FieldPath} {s s' : Seed}

/-- Only what a field starts with and what it passes on is asked of a seed. -/
theorem compileField_congr {f : FieldSchema} (hinitial : s'.initial? f = s.initial? f)
    (hnested : f.kind = .object → s'.nested f = s.nested f) :
    compileField compile parent s' f = compileField compile parent s f := by
  unfold compileField
  dsimp only
  split
  · rename_i hkind
    rw [hnested hkind]
  · rw [hinitial]
  · rw [hinitial]

variable (h : TellsStarts compile)
include h

theorem compileRows_eq_iff {fields : List FieldSchema} {path : FieldPath} {index : Nat}
    {values : List Json} {rows : List (List CompiledField)}
    (hrows : compileRows compile fields path index values = .ok rows) (values' : List Json) :
    compileRows compile fields path index values' = .ok rows ↔
      values.length = values'.length ∧ ∀ pair ∈ values.zip values', ∀ g ∈ fields,
        SameStart g (.ofRow pair.1) (.ofRow pair.2) := by
  induction values generalizing index values' rows with
  | nil =>
    cases hrows
    cases values' with
    | nil => exact iff_of_true rfl ⟨rfl, List.forall_mem_nil _⟩
    | cons v' rest' =>
      refine iff_of_false (fun hrows' => ?_) (fun hsame => Nat.succ_ne_zero _ hsame.1.symm)
      exact absurd (length_of_compileRows hrows') (Nat.succ_ne_zero _).symm
  | cons v rest ih =>
    have hlength := length_of_compileRows hrows
    simp only [compileRows, bind_eq_ok, Except.ok.injEq] at hrows
    obtain ⟨first, hfirst, others, hothers, rfl⟩ := hrows
    cases values' with
    | nil =>
      refine iff_of_false (fun hrows' => ?_) (fun hsame => Nat.succ_ne_zero _ hsame.1)
      exact absurd (length_of_compileRows hrows') (Nat.succ_ne_zero _)
    | cons v' rest' =>
      rw [List.zip_cons_cons, List.forall_mem_cons, List.length_cons, List.length_cons,
        Nat.succ_inj, and_left_comm, ← ih hothers, ← h hfirst]
      simp only [compileRows, bind_eq_ok, Except.ok.injEq]
      exact exists_cons_eq_iff

theorem compiles_iff_sameStart {f : FieldSchema} {c : CompiledField}
    (hc : Compiles compile parent s f c) :
    Compiles compile parent s' f c ↔ SameStart f s s' := by
  cases hc with
  | leaf hobject harray =>
    rw [sameStart_leaf hobject harray]
    -- the leaf holds this value, and with a name for it two leaves can be told to be one
    generalize s.initial? f = initial
    constructor
    · intro hc'
      cases hc'
      rfl
    · rintro rfl
      exact .leaf hobject harray
  | group hkind hnested hfields =>
    rw [sameStart_group hkind hnested, ← h hfields]
    constructor
    · intro hc'
      cases hc' with
      | group _ hnested' hfields' =>
        cases hnested'.symm.trans hnested
        exact hfields'
    · exact .group hkind hnested
  | repeated hkind hnested hrows =>
    have hitems := compileRows_eq_iff h hrows (s'.rows f)
    simp only [mem_sortByOrder] at hitems
    rw [sameStart_repeated hkind hnested]
    refine Iff.trans ?_ hitems
    constructor
    · intro hc'
      generalize hsorted : sortByOrder _ = sorted at hc'
      cases hc' with
      | repeated _ hnested' hrows' =>
        cases hnested'.symm.trans hnested
        exact hrows'
    · exact .repeated hkind hnested

theorem compileField_eq_iff {f : FieldSchema} {c : CompiledField}
    (hc : compileField compile parent s f = .ok c) :
    compileField compile parent s' f = compileField compile parent s f ↔ SameStart f s s' := by
  rw [hc, compileField_eq_ok]
  exact compiles_iff_sameStart h (compileField_eq_ok.mp hc)

theorem tellsStarts_compileLevel : TellsStarts (compileLevel compile) := by
  intro fields parent s s' result hresult
  rw [compileLevel, compileAll_eq_iff hresult]
  simp only [mem_sortByOrder]
  refine forall₂_congr (fun f hf => ?_)
  obtain ⟨c, hc⟩ := exists_compileAll.mp ⟨result, hresult⟩ f (mem_sortByOrder.mpr hf)
  exact compileField_eq_iff h hc

end Levels

theorem tellsStarts_refuseAll : TellsStarts refuseAll := by
  intro fields parent s s' result hresult
  exact absurd hresult refuseAll_ne_ok

theorem compile_eq_iff_sameStart {fields : List FieldSchema} {parent : FieldPath} {s s' : Seed}
    {result : List CompiledField} (h : compile fields parent s = .ok result) :
    compile fields parent s' = .ok result ↔ ∀ f ∈ fields, SameStart f s s' :=
  compileWithin_of_level tellsStarts_refuseAll (fun _ htells => tellsStarts_compileLevel htells) _ h

theorem forall₂_compileAll {one other : FieldSchema → Except SchemaError CompiledField}
    {R : CompiledField → CompiledField → Prop} {fields : List FieldSchema}
    {result result' : List CompiledField} (h : compileAll one fields = .ok result)
    (h' : compileAll other fields = .ok result')
    (hR : ∀ f ∈ fields, ∀ c c', one f = .ok c → other f = .ok c' → R c c') :
    List.Forall₂ R result result' := by
  induction fields generalizing result result' with
  | nil =>
    cases h
    cases h'
    exact .nil
  | cons f rest ih =>
    simp only [compileAll, bind_eq_ok, Except.ok.injEq] at h h'
    obtain ⟨c, hc, others, hothers, rfl⟩ := h
    obtain ⟨c', hc', others', hothers', rfl⟩ := h'
    obtain ⟨hf, hrest⟩ := List.forall_mem_cons.mp hR
    exact .cons (hf c c' hc hc') (ih hothers hothers' hrest)

section OwnValue

variable {f g : FieldSchema} {v : Json}

/-- A seed for one field alone. -/
def seedOf (f : FieldSchema) (v : Json) : Seed := .values (some [(f.name, v)])

theorem get?_seedOf_self : (f.seedOf v).get? f = some v := by
  rw [seedOf, Seed.get?, Dict.get?, if_pos rfl]

theorem get?_seedOf_of_ne (h : g.name ≠ f.name) :
    (f.seedOf v).get? g = (Seed.values none).get? g := by
  rw [seedOf, Seed.get?, Dict.get?, if_neg h.symm]
  rfl

theorem compileField_seedOf_self (hkind : f.kind ≠ .object) (hvalue : f.value = some v)
    (inner : Compiler) (parent : FieldPath) :
    compileField inner parent (f.seedOf v) f = compileField inner parent (.values none) f := by
  apply compileField_congr
  · calc (f.seedOf v).initial? f = ((f.seedOf v).get? f).or f.value := rfl
      _ = some v := by rw [get?_seedOf_self, Option.some_or]
      _ = (Seed.values none).initial? f := hvalue.symm
  · intro hobject
    exact absurd hobject hkind

/-- Without a seed nothing of a group's value reaches the fields inside it. -/
theorem sameStart_seedOf_self (hkind : f.kind = .object) {path : String}
    {nested : List FieldSchema} (hnested : f.nestedFields .fields path = .ok nested) :
    SameStart f (.values none) (f.seedOf v) ↔
      ∀ g ∈ nested, SameStart g (.values none) (.values v.fields?) := by
  have hinside : (f.seedOf v).nested f = .values v.fields? :=
    calc (f.seedOf v).nested f = .values (((f.seedOf v).get? f).bind Json.fields?) := rfl
      _ = .values v.fields? := by rw [get?_seedOf_self, Option.bind_some]
  rw [sameStart_group hkind hnested, hinside]
  rfl

end OwnValue

section Siblings

variable {fields : List FieldSchema} (hnames : NamesApart fields) {f : FieldSchema} (hf : f ∈ fields)
variable (v : Json) (inner : Compiler) (parent : FieldPath)
include hnames hf

theorem compileField_seedOf_sibling {g : FieldSchema} (hg : g ∈ fields) (hne : g ≠ f) :
    compileField inner parent (f.seedOf v) g = compileField inner parent (.values none) g := by
  have hname : g.name ≠ f.name := fun hsame => hne (hnames.eq_of_name hg hf hsame)
  have hget := get?_seedOf_of_ne (v := v) hname
  apply compileField_congr
  · exact congrArg (Option.or · g.value) hget
  · intro _
    exact congrArg (fun found => Seed.values (found.bind Json.fields?)) hget

/-- Whether the whole list is compiled the same is for the one field to decide. -/
theorem compileLevel_seedOf_iff {result : List CompiledField}
    (h : compileLevel inner fields parent (.values none) = .ok result) :
    compileLevel inner fields parent (f.seedOf v) = .ok result ↔
      compileField inner parent (f.seedOf v) f = compileField inner parent (.values none) f := by
  rw [compileLevel] at h ⊢
  rw [compileAll_eq_iff h]
  constructor
  · intro hall
    exact hall f (mem_sortByOrder.mpr hf)
  · intro hself g hg
    by_cases heq : g = f
    · rw [heq]
      exact hself
    · exact compileField_seedOf_sibling hnames hf v inner parent (mem_sortByOrder.mp hg) heq

theorem siblings_compileLevel_seedOf {result other : List CompiledField}
    (h : compileLevel inner fields parent (.values none) = .ok result)
    (hother : compileLevel inner fields parent (f.seedOf v) = .ok other) :
    List.Forall₂ (fun c c' => c.name = f.name ∨ c' = c) result other := by
  rw [compileLevel] at h hother
  apply forall₂_compileAll h hother
  intro g hg c c' hc hc'
  by_cases heq : g = f
  · left
    rw [heq] at hc
    exact (compileField_eq_ok.mp hc).name_eq
  · right
    have hg := mem_sortByOrder.mp hg
    rw [compileField_seedOf_sibling hnames hf v inner parent hg heq, hc] at hc'
    exact (Except.ok.inj hc').symm

end Siblings

/-- A field that is not a group may be given its own value without any effect. A group may be given
it exactly when all fields inside start from it as they do without it. No other field is changed. -/
theorem compile_seedOf_own_value {fields : List FieldSchema} {parent : FieldPath}
    {result : List CompiledField} (hnames : NamesApart fields)
    (h : compile fields parent (.values none) = .ok result) {f : FieldSchema} (hf : f ∈ fields)
    {v : Json} (hvalue : f.value = some v) :
    (f.kind ≠ .object → compile fields parent (f.seedOf v) = .ok result) ∧
    (f.kind = .object → ∃ nested, f.nestedFields .fields "" = .ok nested ∧
      (compile fields parent (f.seedOf v) = .ok result ↔
        ∀ g ∈ nested, SameStart g (.values none) (.values v.fields?))) ∧
    (∀ other, compile fields parent (f.seedOf v) = .ok other →
      List.Forall₂ (fun c c' => c.name = f.name ∨ c' = c) result other) := by
  obtain ⟨inner, htells, hcompile⟩ := exists_compileLevel tellsStarts_refuseAll
    (fun _ htells => tellsStarts_compileLevel htells) fields
  rw [hcompile] at h ⊢
  have hsame := compileLevel_seedOf_iff hnames hf v inner parent h
  refine ⟨fun hkind => ?_, fun hkind => ?_, fun other hother => ?_⟩
  · exact hsame.mpr (compileField_seedOf_self hkind hvalue inner parent)
  · obtain ⟨c, hc⟩ := exists_compileAll.mp ⟨result, h⟩ f (mem_sortByOrder.mpr hf)
    have hsame := hsame.trans (compileField_eq_iff htells hc)
    cases compileField_eq_ok.mp hc with
    | leaf hobject => exact absurd hkind hobject
    | group _ hnested =>
      refine ⟨_, nestedFields_path hnested "", hsame.trans ?_⟩
      exact sameStart_seedOf_self hkind hnested
    | repeated harray =>
      rw [hkind] at harray
      cases harray
  · exact siblings_compileLevel_seedOf hnames hf v inner parent h hother

/-- Where an order goes; `cityEntries` are what is said of the city beside its name. -/
def destination (cityEntries : Dict Json) : FieldSchema where
  name := "destination"
  kind := .object
  properties := some [("fields",
    .arr [.obj (("name", .str "city") :: cityEntries), .obj [("name", .str "street")]])]
  value := some (.obj [("city", .str "Oslo")])

def deliveryFields : List FieldSchema :=
  [orderItems.withValue (.arr orderRows), destination [("value", .str "Oslo")]]

theorem delivery_seeded_with_own_values :
    NamesApart deliveryFields ∧ ∃ result, compile deliveryFields [] (.values none) = .ok result ∧
      compile deliveryFields [] (orderItems.seedOf (.arr orderRows)) = .ok result ∧
      compile deliveryFields []
        ((destination [("value", .str "Oslo")]).seedOf (.obj [("city", .str "Oslo")])) =
          .ok result := by
  have hnames : NamesApart deliveryFields := by decide
  obtain ⟨result, hresult⟩ : ∃ result, compile deliveryFields [] (.values none) = .ok result :=
    ⟨_, rfl⟩
  refine ⟨hnames, result, hresult, ?_, ?_⟩
  · have hitems := compile_seedOf_own_value hnames hresult List.mem_cons_self rfl
    exact hitems.1 (by decide)
  · have hgroup := compile_seedOf_own_value hnames hresult
      (List.mem_cons_of_mem _ List.mem_cons_self) rfl
    obtain ⟨nested, hnested, hiff⟩ := hgroup.2.1 rfl
    refine hiff.mpr ?_
    cases hnested
    intro g hg
    rcases List.mem_cons.mp hg with rfl | hg
    · exact .leaf (by decide) (by decide) rfl
    · rw [List.mem_singleton.mp hg]
      exact .leaf (by decide) (by decide) rfl

/-- Without a value of its own the city starts empty, unless the group is given its value. -/
theorem destination_starts_otherwise :
    NamesApart [destination []] ∧
      (destination []).value = some (.obj [("city", .str "Oslo")]) ∧
      (compile [destination []] [] (.values none)).map
        (fun fields => (leavesOf fields).map LeafField.initialValue) = .ok [none, none] ∧
      (compile [destination []] [] ((destination []).seedOf (.obj [("city", .str "Oslo")]))).map
        (fun fields => (leavesOf fields).map LeafField.initialValue) =
          .ok [some (.str "Oslo"), none] ∧
      compile [destination []] [] ((destination []).seedOf (.obj [("city", .str "Oslo")])) ≠
        compile [destination []] [] (.values none) := by
  have hnames : NamesApart [destination []] := by decide
  have hbare : (compile [destination []] [] (.values none)).map
      (fun fields => (leavesOf fields).map LeafField.initialValue) = .ok [none, none] := rfl
  have hseeded : (compile [destination []] []
      ((destination []).seedOf (.obj [("city", .str "Oslo")]))).map
        (fun fields => (leavesOf fields).map LeafField.initialValue) =
          .ok [some (.str "Oslo"), none] := rfl
  refine ⟨hnames, rfl, hbare, hseeded, fun heq => ?_⟩
  rw [heq, hbare] at hseeded
  cases hseeded

end FieldSchema

end UiSchema
