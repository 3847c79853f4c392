import UiSchema.Proofs.Dict
import UiSchema.Proofs.Form.RowEdits
import UiSchema.Proofs.Form.Siblings

/-!
# Nesting a submission and reading it back

The nested object of a submission is written leaf by leaf. In a form whose siblings have distinct
names each leaf reads back exactly its own value, whatever the values are, so nesting and reading a
submission restricts it to the names of leaves. A list of rows never grows beyond the rows of its
group.
-/

namespace UiSchema

set_option autoImplicit false

open CompiledField

namespace CompiledForm

/-- The object with the value of one leaf written into it, if the submission has one. -/
def writeLeaf (values : Submission) (root : Json) (f : LeafField) : Json :=
  match Dict.get? values f.fullName with
  | some v => root.writeAt f.path v
  | none => root

/-- The entries of a submission that name a leaf. -/
def restrict (form : CompiledForm) (values : Submission) : Submission :=
  values.filter (fun entry => form.leaves.any (fun f => f.fullName == entry.1))

theorem toNested_eq_foldl (form : CompiledForm) (values : Submission) :
    form.toNested values = form.leaves.foldl (writeLeaf values) (.obj []) := rfl

theorem readAt_empty_of_getLast? {path : FieldPath} {name : String}
    (hlast : path.getLast? = some (.key name)) : (Json.obj []).readAt path = none := by
  cases path with
  | nil => cases hlast
  | cons s rest => exact Json.readAt_empty rest

section Writes

variable {values : Submission} {root : Json}

theorem readAt_writeLeaf_of_diverges {leaf : LeafField} {q : FieldPath} {name : String}
    (h : leaf.path.Diverges q) (hq : q.getLast? = some (.key name)) :
    (writeLeaf values root leaf).readAt q = root.readAt q := by
  unfold writeLeaf
  split
  · exact Json.readAt_writeAt_of_diverges h hq root _
  · rfl

theorem readAt_writeLeaf_self {leaf : LeafField}
    (h : root.readAt leaf.path = Dict.get? values leaf.fullName ∨ root.readAt leaf.path = none) :
    (writeLeaf values root leaf).readAt leaf.path = Dict.get? values leaf.fullName := by
  unfold writeLeaf
  split
  · rename_i v hv
    rw [Json.readAt_writeAt_self, hv]
  · rename_i hv
    rcases h with h | h
    · rw [h, hv]
    · rw [h, hv]

/-- A leaf reads its own value once it was written, when all others part from it. -/
theorem readAt_foldl_writeLeaf {leaf : LeafField} {name : String}
    (hlast : leaf.path.getLast? = some (.key name)) {leaves : List LeafField}
    (hleaves : ∀ f ∈ leaves, f = leaf ∨ f.path.Diverges leaf.path)
    (h : root.readAt leaf.path = Dict.get? values leaf.fullName ∨
      (root.readAt leaf.path = none ∧ leaf ∈ leaves)) :
    (leaves.foldl (writeLeaf values) root).readAt leaf.path = Dict.get? values leaf.fullName := by
  induction leaves generalizing root with
  | nil =>
    rcases h with h | ⟨_, hmem⟩
    · exact h
    · cases hmem
  | cons f rest ih =>
    have hrest : ∀ f ∈ rest, f = leaf ∨ f.path.Diverges leaf.path :=
      fun g hg => hleaves g (List.mem_cons_of_mem f hg)
    rw [List.foldl_cons]
    by_cases hf : f = leaf
    · subst hf
      exact ih hrest (Or.inl (readAt_writeLeaf_self (h.imp_right And.left)))
    · have hdiverges := (hleaves f List.mem_cons_self).resolve_left hf
      refine ih hrest ?_
      rw [readAt_writeLeaf_of_diverges hdiverges hlast]
      exact h.imp_right (fun ⟨hnone, hmem⟩ =>
        ⟨hnone, (List.mem_cons.mp hmem).resolve_left (Ne.symm hf)⟩)

theorem foldl_writeLeaf_obj {leaves : List LeafField}
    (hleaves : ∀ f ∈ leaves, ∃ name rest, f.path = .key name :: rest)
    (h : ∃ fields, root = .obj fields) :
    ∃ fields, leaves.foldl (writeLeaf values) root = .obj fields := by
  induction leaves generalizing root with
  | nil => exact h
  | cons f rest ih =>
    refine ih (fun g hg => hleaves g (List.mem_cons_of_mem f hg)) ?_
    unfold writeLeaf
    split
    · obtain ⟨name, steps, hpath⟩ := hleaves f List.mem_cons_self
      rw [hpath]
      exact ⟨_, rfl⟩
    · exact h

theorem foldl_writeLeaf_congr {values' : Submission} {leaves : List LeafField}
    (h : ∀ f ∈ leaves, Dict.get? values' f.fullName = Dict.get? values f.fullName) :
    leaves.foldl (writeLeaf values') root = leaves.foldl (writeLeaf values) root := by
  induction leaves generalizing root with
  | nil => rfl
  | cons f rest ih =>
    have hwrite : writeLeaf values' root f = writeLeaf values root f := by
      simp only [writeLeaf, h f List.mem_cons_self]
    rw [List.foldl_cons, List.foldl_cons, hwrite]
    exact ih (fun g hg => h g (List.mem_cons_of_mem f hg))

/-- At a path there is nothing, or a list of at most so many items. -/
def ListAtMost (v : Json) (path : FieldPath) (size : Nat) : Prop :=
  v.readAt path = none ∨ ∃ items, v.readAt path = some (.arr items) ∧ items.length ≤ size

theorem listAtMost_writeAt {path rest : FieldPath} {size i : Nat} (hi : i < size)
    (h : ListAtMost root path size) (v : Json) :
    ListAtMost (root.writeAt (path ++ .index i :: rest) v) path size := by
  have hitems : ((root.readAt path).getD .null).arrayItems.length ≤ size := by
    rcases h with h | ⟨items, h, hlength⟩
    · simp [h, Json.arrayItems]
    · simpa [h] using hlength
  refine Or.inr ⟨_, Json.readAt_writeAt_prefix root path _ v, ?_⟩
  rw [Json.length_modifyItem]
  omega

theorem listAtMost_foldl_writeLeaf {path : FieldPath} {name : String} {size : Nat}
    (hlast : path.getLast? = some (.key name)) {leaves : List LeafField}
    (hleaves : ∀ f ∈ leaves,
      (∃ i rest, i < size ∧ f.path = path ++ .index i :: rest) ∨ f.path.Diverges path)
    (h : ListAtMost root path size) :
    ListAtMost (leaves.foldl (writeLeaf values) root) path size := by
  induction leaves generalizing root with
  | nil => exact h
  | cons f rest ih =>
    refine ih (fun g hg => hleaves g (List.mem_cons_of_mem f hg)) ?_
    rcases hleaves f List.mem_cons_self with ⟨i, steps, hi, hpath⟩ | hdiverges
    · unfold writeLeaf
      split
      · rw [hpath]
        exact listAtMost_writeAt hi h _
      · exact h
    · unfold ListAtMost
      rw [readAt_writeLeaf_of_diverges hdiverges hlast]
      exact h

end Writes

section Forms

variable {form : CompiledForm}

theorem get?_restrict (form : CompiledForm) (values : Submission) (name : String) :
    Dict.get? (form.restrict values) name =
      if form.leaves.any (fun f => f.fullName == name) then Dict.get? values name else none :=
  Dict.get?_filter values (fun key => form.leaves.any (fun f => f.fullName == key)) name

theorem toNested_restrict (form : CompiledForm) (values : Submission) :
    form.toNested (form.restrict values) = form.toNested values := by
  refine foldl_writeLeaf_congr (fun f hf => ?_)
  have hnamed : form.leaves.any (fun g => g.fullName == f.fullName) = true :=
    List.any_eq_true.mpr ⟨f, hf, by simp⟩
  rw [get?_restrict, if_pos hnamed]

/-- Collecting a submission's own values at the leaves reads as its restriction. -/
theorem get?_collect {values : Submission} {value? : LeafField → Option Json}
    (h : ∀ f ∈ form.leaves, value? f = Dict.get? values f.fullName) (name : String) :
    Dict.get? (form.collect value?) name = Dict.get? (form.restrict values) name := by
  rw [get?_restrict, collect, Dict.ofList, Dict.get?_overlay_of_function (f := Dict.get? values)]
  · rw [Dict.get?_nil]
    cases hget : Dict.get? values name with
    | none => rw [ite_self, ite_self]
    | some v =>
      have hiff : name ∈ (form.leaves.filterMap (fun f =>
            (value? f).map (fun v => (f.fullName, v)))).map Prod.fst ↔
          form.leaves.any (fun f => f.fullName == name) = true := by
        simp only [List.mem_map, List.mem_filterMap, Option.map_eq_some_iff, List.any_eq_true,
          beq_iff_eq]
        constructor
        · rintro ⟨_, ⟨f, hf, _, _, rfl⟩, rfl⟩
          exact ⟨f, hf, rfl⟩
        · rintro ⟨f, hf, rfl⟩
          exact ⟨(f.fullName, v), ⟨f, hf, v, by rw [h f hf, hget], rfl⟩, rfl⟩
      simp only [hiff]
  · intro entry hentry
    obtain ⟨f, hf, hentry⟩ := List.mem_filterMap.mp hentry
    obtain ⟨v, hv, rfl⟩ := Option.map_eq_some_iff.mp hentry
    rw [← h f hf, hv]

theorem collect_eq_restrict {values : Submission} (hvalues : Dict.Ascending values)
    {value? : LeafField → Option Json}
    (h : ∀ f ∈ form.leaves, value? f = Dict.get? values f.fullName) :
    form.collect value? = form.restrict values :=
  Dict.ext_get? (Dict.ascending_ofList _) (hvalues.filter _) (get?_collect h)

variable (haddr : ∀ f ∈ form.fields, Addressed [] f)
include haddr

theorem toNested_obj (values : Submission) : ∃ nested, form.toNested values = .obj nested := by
  refine foldl_writeLeaf_obj (fun leaf hleaf => ?_) ⟨[], rfl⟩
  obtain ⟨f, hf, hleaf⟩ := mem_leavesOf.mp hleaf
  obtain ⟨rest, hrest⟩ := (haddr f hf).leaf_path hleaf
  exact ⟨f.name, rest, hrest⟩

variable (hnames : DistinctNames form.fields)
include hnames

theorem readAt_toNested (values : Submission) {leaf : LeafField} (hleaf : leaf ∈ form.leaves) :
    (form.toNested values).readAt leaf.path = Dict.get? values leaf.fullName := by
  have hwithin := within_of_mem_leavesOf hleaf
  have hlast : leaf.path.getLast? = some (.key leaf.name) := hwithin.path_getLast? haddr
  rw [toNested_eq_foldl]
  refine readAt_foldl_writeLeaf hlast (fun f hf => ?_) (Or.inr ⟨?_, hleaf⟩)
  · exact (hwithin.leaf_inside_or_diverges haddr hnames hf).imp_left mem_leaves_leaf.mp
  · exact readAt_empty_of_getLast? hlast

theorem listAtMost_toNested (values : Submission) {g : RepeatGroup CompiledField}
    (hg : Within (.repeated g) form.fields) :
    ListAtMost (form.toNested values) g.path g.rows.length := by
  have hlast : g.path.getLast? = some (.key g.name) := hg.path_getLast? haddr
  rw [toNested_eq_foldl]
  refine listAtMost_foldl_writeLeaf hlast (fun f hf => ?_) (Or.inl ?_)
  · refine (hg.leaf_inside_or_diverges haddr hnames hf).imp_left (fun hinside => ?_)
    obtain ⟨row, hrow, hf⟩ := mem_leaves_repeated.mp hinside
    obtain ⟨i, hi⟩ := List.getElem?_of_mem hrow
    obtain ⟨_, haddressed⟩ := hg.addressed haddr
    obtain ⟨rest, hrest⟩ := haddressed.row_leaf_path hi hf
    exact ⟨i, rest, (List.getElem?_eq_some_iff.mp hi).1, hrest⟩
  · exact readAt_empty_of_getLast? hlast

end Forms

/-- Nesting a submission over an edited form with distinct sibling names and reading it back
restricts it to the leaves; what names no leaf has no part in it, and no list outgrows the rows of
its group. -/
theorem valuesFrom_toNested {schema : FormSchema} {seed : Option Properties} {form : CompiledForm}
    (h : compile schema seed = .ok form) (edits : List RowEdit)
    (hnames : DistinctNames (form.edited edits).fields) {values : Submission}
    (hvalues : Dict.Ascending values) :
    ∃ nested, (form.edited edits).toNested values = .obj nested ∧
      (form.edited edits).valuesFrom nested = (form.edited edits).restrict values ∧
      (form.edited edits).toNested ((form.edited edits).restrict values) = .obj nested ∧
      ∀ g, Within (.repeated g) (form.edited edits).fields →
        ListAtMost (.obj nested) g.path g.rows.length := by
  have haddr := addressed_edited (addressed_of_compile h) edits
  obtain ⟨nested, hnested⟩ := toNested_obj haddr values
  refine ⟨nested, hnested, ?_, ?_, fun g hg => ?_⟩
  · refine collect_eq_restrict hvalues (fun f hf => ?_)
    rw [← hnested]
    exact readAt_toNested haddr hnames values hf
  · rw [toNested_restrict, hnested]
  · rw [← hnested]
    exact listAtMost_toNested haddr hnames values hg

end CompiledForm

/-- Values for two rows of an order, and entries that name no leaf of it. -/
def orderSubmission : Submission :=
  [("items", .null), ("items.0.parts.0.id", .arr [.null, .obj [("deep", .int 1)]]),
    ("items.1.sku", .str "C"), ("items.18446744073709551615.sku", .int 7)]

theorem order_nested_and_read :
    compiledOrder = .ok orderForm ∧ DistinctNames (orderForm.edited orderEdits).fields ∧
      Dict.Ascending orderSubmission ∧
      ∃ nested, (orderForm.edited orderEdits).toNested orderSubmission = .obj nested ∧
        (orderForm.edited orderEdits).valuesFrom nested =
          (orderForm.edited orderEdits).restrict orderSubmission := by
  have h : compiledOrder = .ok orderForm := rfl
  have hnames : DistinctNames (orderForm.edited orderEdits).fields := by decide +kernel
  have hvalues : Dict.Ascending orderSubmission := by
    unfold Dict.Ascending
    decide +kernel
  obtain ⟨nested, hnested, hread, _⟩ :=
    CompiledForm.valuesFrom_toNested h orderEdits hnames hvalues
  exact ⟨h, hnames, hvalues, nested, hnested, hread⟩

example : ((orderForm.edited orderEdits).restrict orderSubmission).map Prod.fst =
    ["items.0.parts.0.id", "items.1.sku"] := by
  decide +kernel

end UiSchema
