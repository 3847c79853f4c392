import UiSchema.Command.Submission
import UiSchema.Proofs.Dict
import UiSchema.Proofs.Form.RowEdits
import UiSchema.Proofs.Json.Paths

/-!
# Seeding agrees with reading

A seed is taken apart on the way down while a form is compiled, and values are read along the paths
that come out of it. Both find the same: a leaf starts with what the seed holds at its path,
whatever shape the seed has. Where it holds nothing there, the leaf starts with the value of a
default row, when it stands in one that has a value for it, and else with the value of its field.
-/

namespace UiSchema

set_option autoImplicit false

open CompiledField

namespace FieldSchema

def leafAt (f : FieldSchema) (path : FieldPath) (initial : Option Json) : LeafField :=
  ⟨path, f.name, f.label, f.kind, f.required, initial, f.rules, f.properties⟩

/-- `Origin v fields parent row path f held` says that the leaf at `path` comes from the field `f`,
found in `fields` below `parent`. What a default row has at `parent` is `row`, and `held` is what it
has for `f`. Rows come from `v` where it holds something at the path of the list; otherwise they are
default rows, from the default row around them or else from the value of the field. -/
inductive Origin (v : Json) : List FieldSchema → FieldPath → Option Json → FieldPath →
    FieldSchema → Option Json → Prop
  | leaf {fields : List FieldSchema} {parent : FieldPath} {row : Option Json} {f : FieldSchema} :
      f ∈ fields → f.kind ≠ .object → f.kind ≠ .objectArray →
      Origin v fields parent row (parent.child f.name) f (row.bind (·.field? f.name))
  | group {fields nested : List FieldSchema} {parent path : FieldPath} {row held : Option Json}
      {f g : FieldSchema} :
      f ∈ fields → f.kind = .object →
      f.nestedFields .fields (parent.child f.name).text = .ok nested →
      Origin v nested (parent.child f.name) (row.bind (·.field? f.name)) path g held →
      Origin v fields parent row path g held
  | givenRow {fields nested : List FieldSchema} {parent path : FieldPath} {row held : Option Json}
      {f g : FieldSchema} {items : List Json} {i : Nat} :
      f ∈ fields → f.kind = .objectArray →
      f.nestedFields .itemFields (parent.child f.name).text = .ok nested →
      v.readAt (parent.child f.name) = some (.arr items) → i < items.length →
      Origin v nested ((parent.child f.name).row i) none path g held →
      Origin v fields parent row path g held
  | defaultRow {fields nested : List FieldSchema} {parent path : FieldPath}
      {row held : Option Json} {f g : FieldSchema} {items : List Json} {i : Nat} {item : Json} :
      f ∈ fields → f.kind = .objectArray →
      f.nestedFields .itemFields (parent.child f.name).text = .ok nested →
      v.readAt (parent.child f.name) = none →
      (row.bind (·.field? f.name)).or f.value = some (.arr items) → items[i]? = some item →
      Origin v nested ((parent.child f.name).row i) (some item) path g held →
      Origin v fields parent row path g held

theorem Origin.mono {v : Json} {fields fields' : List FieldSchema} {parent path : FieldPath}
    {row held : Option Json} {g : FieldSchema} (h : Origin v fields parent row path g held)
    (hfields : ∀ f ∈ fields, f ∈ fields') : Origin v fields' parent row path g held := by
  cases h with
  | leaf hf hobject harray => exact .leaf (hfields _ hf) hobject harray
  | group hf hkind hnested h => exact .group (hfields _ hf) hkind hnested h
  | givenRow hf hkind hnested hread hi h =>
    exact .givenRow (hfields _ hf) hkind hnested hread hi h
  | defaultRow hf hkind hnested hread hdefault hitem h =>
    exact .defaultRow (hfields _ hf) hkind hnested hread hdefault hitem h

/-- What there is at a path to seed from: the value read there, else the part of a default row. -/
def valueAt (v : Json) (path : FieldPath) (row : Option Json) : Option Json :=
  (v.readAt path).or row

def seedAt (v : Json) (path : FieldPath) (row : Option Json) : Seed :=
  .values ((valueAt v path row).bind Json.fields?)

section Seeds

variable {v : Json} {parent : FieldPath} {row : Option Json}

theorem get?_values_fields? (x : Option Json) (f : FieldSchema) :
    (Seed.values (x.bind Json.fields?)).get? f = x.bind (·.field? f.name) := by
  cases x with
  | none => rfl
  | some w => cases w <;> rfl

/-- Nothing is read below a default row, so one of the two sources is empty all the way down. -/
theorem get?_seedAt (h : row = none ∨ v.readAt parent = none) (f : FieldSchema) :
    (seedAt v parent row).get? f =
      valueAt v (parent.child f.name) (row.bind (·.field? f.name)) := by
  rw [seedAt, get?_values_fields?, valueAt, valueAt, Json.readAt_child]
  rcases h with rfl | h
  · rw [Option.or_none, Option.bind_none, Option.or_none]
  · rw [h, Option.none_or, Option.bind_none, Option.none_or]

theorem initial?_seedAt (h : row = none ∨ v.readAt parent = none) (f : FieldSchema) :
    (seedAt v parent row).initial? f =
      (v.readAt (parent.child f.name)).or ((row.bind (·.field? f.name)).or f.value) := by
  rw [← Option.or_assoc, ← valueAt, ← get?_seedAt h]
  rfl

theorem nested_seedAt (h : row = none ∨ v.readAt parent = none) (f : FieldSchema) :
    (seedAt v parent row).nested f =
      seedAt v (parent.child f.name) (row.bind (·.field? f.name)) := by
  rw [seedAt, Seed.nested, ← seedAt, get?_seedAt h]
  rfl

end Seeds

/-- A compiler gives each leaf what is read at its path, and where nothing is, what a default row
or the field of the leaf has. -/
def SeedsAsRead (v : Json) (compile : Compiler) : Prop :=
  ∀ ⦃fields parent row result⦄, (row = none ∨ v.readAt parent = none) →
    compile fields parent (seedAt v parent row) = .ok result →
    ∀ leaf ∈ leavesOf result, ∃ f held, Origin v fields parent row leaf.path f held ∧
      leaf = f.leafAt leaf.path ((v.readAt leaf.path).or (held.or f.value))

section Levels

variable {v : Json} {compile : Compiler} (h : SeedsAsRead v compile)
include h

theorem origin_of_row {f : FieldSchema} {fields nested : List FieldSchema} {parent : FieldPath}
    {row : Option Json} (hrow : row = none ∨ v.readAt parent = none) (hf : f ∈ fields)
    (hkind : f.kind = .objectArray)
    (hnested : f.nestedFields .itemFields (parent.child f.name).text = .ok nested)
    {rows : List (List CompiledField)}
    (hrows : compileRows compile (sortByOrder nested) (parent.child f.name) 0
      ((((seedAt v parent row).initial? f).bind Json.items?).getD []) = .ok rows)
    {fieldsOfRow : List CompiledField} (hmem : fieldsOfRow ∈ rows) {leaf : LeafField}
    (hleaf : leaf ∈ leavesOf fieldsOfRow) :
    ∃ g held, Origin v fields parent row leaf.path g held ∧
      leaf = g.leafAt leaf.path ((v.readAt leaf.path).or (held.or g.value)) := by
  obtain ⟨i, hi⟩ := List.getElem?_of_mem hmem
  obtain ⟨item, hitem, hcompile⟩ := getElem?_of_compileRows hrows hi
  rw [Nat.zero_add] at hcompile
  rw [initial?_seedAt hrow] at hitem
  have hsorted : ∀ g ∈ sortByOrder nested, g ∈ nested := fun g hg => mem_sortByOrder.mp hg
  have hread := Json.readAt_row v (parent.child f.name) i
  -- what the seed has in place of the list decides for all rows: they are given, or all default
  cases hlist : v.readAt (parent.child f.name) with
  | some list =>
    rw [hlist, Option.some_or] at hitem
    rw [hlist, Option.bind_some] at hread
    cases list with
    | arr items =>
      have hseed : Seed.ofRow item = seedAt v ((parent.child f.name).row i) none := by
        have hat : v.readAt ((parent.child f.name).row i) = some item := hread.trans hitem
        rw [seedAt, valueAt, hat]
        rfl
      rw [hseed] at hcompile
      obtain ⟨g, held, horigin, hvalue⟩ := h (Or.inl rfl) hcompile leaf hleaf
      have hlt : i < items.length := (List.getElem?_eq_some_iff.mp hitem).1
      exact ⟨g, held, .givenRow hf hkind hnested hlist hlt (horigin.mono hsorted), hvalue⟩
    | _ => cases hitem
  | none =>
    rw [hlist, Option.none_or] at hitem
    rw [hlist, Option.bind_none] at hread
    cases hdefault : (row.bind (·.field? f.name)).or f.value with
    | none =>
      rw [hdefault] at hitem
      cases hitem
    | some list =>
      rw [hdefault] at hitem
      cases list with
      | arr items =>
        have hseed : Seed.ofRow item = seedAt v ((parent.child f.name).row i) (some item) := by
          rw [seedAt, valueAt, hread]
          rfl
        rw [hseed] at hcompile
        obtain ⟨g, held, horigin, hvalue⟩ := h (Or.inr hread) hcompile leaf hleaf
        exact ⟨g, held,
          .defaultRow hf hkind hnested hlist hdefault hitem (horigin.mono hsorted), hvalue⟩
      | _ => cases hitem

theorem origin_of_compiles {f : FieldSchema} {fields : List FieldSchema} {parent : FieldPath}
    {row : Option Json} (hrow : row = none ∨ v.readAt parent = none) (hf : f ∈ fields)
    {c : CompiledField} (hc : Compiles compile parent (seedAt v parent row) f c)
    {leaf : LeafField} (hleaf : leaf ∈ c.leaves) :
    ∃ g held, Origin v fields parent row leaf.path g held ∧
      leaf = g.leafAt leaf.path ((v.readAt leaf.path).or (held.or g.value)) := by
  cases hc with
  | leaf hobject harray =>
    rw [mem_leaves_leaf.mp hleaf]
    refine ⟨f, _, .leaf hf hobject harray, ?_⟩
    rw [initial?_seedAt hrow]
    rfl
  | group hkind hnested hfields =>
    rw [nested_seedAt hrow] at hfields
    -- below a group for which the seed has nothing it has nothing either
    have hbelow : row.bind (·.field? f.name) = none ∨ v.readAt (parent.child f.name) = none := by
      refine hrow.imp (fun hnone => ?_) (fun hnone => ?_)
      · rw [hnone, Option.bind_none]
      · rw [Json.readAt_child, hnone, Option.bind_none]
    obtain ⟨g, held, horigin, hvalue⟩ := h hbelow hfields leaf (mem_leaves_group.mp hleaf)
    exact ⟨g, held, .group hf hkind hnested horigin, hvalue⟩
  | repeated hkind hnested hrows =>
    obtain ⟨fieldsOfRow, hmem, hleaf⟩ := mem_leaves_repeated.mp hleaf
    exact origin_of_row h hrow hf hkind hnested hrows hmem hleaf

theorem seedsAsRead_compileLevel : SeedsAsRead v (compileLevel compile) := by
  intro fields parent row result hrow hresult leaf hleaf
  obtain ⟨c, hc, hleaf⟩ := mem_leavesOf.mp hleaf
  obtain ⟨f, hf, hone⟩ := mem_of_compileAll hresult hc
  exact origin_of_compiles h hrow (mem_sortByOrder.mp hf) (compileField_eq_ok.mp hone) hleaf

end Levels

theorem seedsAsRead_compileWithin (v : Json) (depth : Nat) :
    SeedsAsRead v (compileWithin depth) := by
  refine compileWithin_of_level ?_ (fun compile h => seedsAsRead_compileLevel h) depth
  intro fields parent row result _ hresult
  exact absurd hresult refuseAll_ne_ok

end FieldSchema

namespace CompiledForm

open FieldSchema (Origin leafAt)

theorem collect_extends {form : CompiledForm}
    (hnames : (form.leaves.map LeafField.fullName).Nodup) {small large : LeafField → Option Json}
    (h : ∀ leaf ∈ form.leaves, ∀ v, small leaf = some v → large leaf = some v) :
    Dict.Extends (form.collect large) (form.collect small) := by
  intro name v hsmall
  obtain ⟨leaf, hleaf, hname, hv⟩ := (Dict.get?_ofList_keyed hnames small).mp hsmall
  exact (Dict.get?_ofList_keyed hnames large).mpr ⟨leaf, hleaf, hname, h leaf hleaf v hv⟩

/-- Every leaf of a form compiled with a seed starts with what is read from the seed at its path, or
else with its default. With distinct full names the values prepared from the seed are initial
values. -/
theorem seeded_as_read {schema : FormSchema} {v : Properties} {form : CompiledForm}
    (h : compile schema (some v) = .ok form) :
    (∀ leaf ∈ form.leaves, ∃ f held,
      Origin (.obj v) schema.fields [] none leaf.path f held ∧
      leaf = f.leafAt leaf.path leaf.initialValue ∧
      (∀ x, (Json.obj v).readAt leaf.path = some x → leaf.initialValue = some x) ∧
      ((Json.obj v).readAt leaf.path = none → leaf.initialValue = held.or f.value)) ∧
    ((form.leaves.map LeafField.fullName).Nodup → ∃ values,
      Command.prepare schema (some v) = .ok (form, values) ∧
        Dict.Extends form.initialValues values) := by
  have hleaves : ∀ leaf ∈ form.leaves, ∃ f held,
      Origin (.obj v) schema.fields [] none leaf.path f held ∧
      leaf = f.leafAt leaf.path (((Json.obj v).readAt leaf.path).or (held.or f.value)) :=
    FieldSchema.seedsAsRead_compileWithin (.obj v) _ (Or.inl rfl) (fields_of_compile h)
  have hread : ∀ leaf ∈ form.leaves, ∀ x,
      (Json.obj v).readAt leaf.path = some x → leaf.initialValue = some x := by
    intro leaf hleaf x hx
    obtain ⟨f, held, _, heq⟩ := hleaves leaf hleaf
    rw [heq, leafAt, hx, Option.some_or]
  refine ⟨fun leaf hleaf => ?_, fun hnames => ?_⟩
  · obtain ⟨f, held, horigin, heq⟩ := hleaves leaf hleaf
    have hinitial := congrArg LeafField.initialValue heq
    refine ⟨f, held, horigin, ?_, hread leaf hleaf, fun hnone => ?_⟩
    · rw [hinitial]
      exact heq
    · rw [hinitial, hnone]
      rfl
  · refine ⟨_, ?_, collect_extends hnames hread⟩
    simp only [Command.prepare, h]
    rfl

end CompiledForm

/-- An order with default items, and a list of returned ones. -/
def orderSchema : FormSchema where
  fields := [{ name := "customer", value := some (.str "Ada") },
    orderItems.withValue (.arr orderRows), { orderItems with name := "returned" }]

/-- Nothing of the default items, and two returned ones, of which the first is no object. -/
def orderSeed : Properties :=
  [("customer", .null),
    ("returned", .arr [.str "C", .obj [("parts", .arr [.obj [("id", .int 3)]])]])]

def seededOrder : CompiledForm :=
  (CompiledForm.compile orderSchema (some orderSeed)).toOption.getD ⟨[], "", none⟩

theorem order_seeded_as_read :
    CompiledForm.compile orderSchema (some orderSeed) = .ok seededOrder ∧
      (seededOrder.leaves.map LeafField.fullName).Nodup ∧
      (∀ leaf ∈ seededOrder.leaves, ∀ x,
        (Json.obj orderSeed).readAt leaf.path = some x → leaf.initialValue = some x) ∧
      ∃ values, Command.prepare orderSchema (some orderSeed) = .ok (seededOrder, values) ∧
        Dict.Extends seededOrder.initialValues values := by
  have h : CompiledForm.compile orderSchema (some orderSeed) = .ok seededOrder := rfl
  have hnames : (seededOrder.leaves.map LeafField.fullName).Nodup := by decide +kernel
  obtain ⟨hleaves, hprepared⟩ := CompiledForm.seeded_as_read h
  refine ⟨h, hnames, fun leaf hleaf => ?_, hprepared hnames⟩
  obtain ⟨_, _, _, _, hread, _⟩ := hleaves leaf hleaf
  exact hread

example : seededOrder.initialValues =
    [("customer", .null), ("items.0.sku", .str "A"), ("items.1.parts.0.id", .int 1),
      ("items.1.parts.1.id", .int 2), ("items.1.sku", .str "B"),
      ("returned.1.parts.0.id", .int 3)] := rfl

end UiSchema
