import UiSchema.Proofs.Form.FullNames
import UiSchema.Proofs.Form.Submission

/-!
# Required fields in what is posted

A required leaf has a rule that its value passes before anything is posted, and the value stands in
the payload at the path of the leaf, unless a leaf written later takes away a container on the way
to it. With distinct names no leaf does. Groups and lists have no rules: they are in the payload as
soon as one leaf inside them has a value, and are missing from it otherwise, required or not.
-/

namespace UiSchema

set_option autoImplicit false

open CompiledField FieldSchema

namespace FieldSchema

/-- The compiled field stands for the field: both have the same place in a list of the schema and in
the fields, at some depth, that come from this list. -/
inductive Stands (f : FieldSchema) (c : CompiledField) :
    List FieldSchema → List CompiledField → Prop
  | here {schema : List FieldSchema} {fields : List CompiledField} :
      (f, c) ∈ (sortByOrder schema).zip fields → Stands f c schema fields
  | group {schema nested : List FieldSchema} {fields : List CompiledField} {g : FieldSchema}
      {compiled : GroupField CompiledField} :
      (g, .group compiled) ∈ (sortByOrder schema).zip fields →
      g.nestedFields .fields "" = .ok nested → Stands f c nested compiled.fields →
      Stands f c schema fields
  | row {schema nested : List FieldSchema} {fields row : List CompiledField} {g : FieldSchema}
      {compiled : RepeatGroup CompiledField} :
      (g, .repeated compiled) ∈ (sortByOrder schema).zip fields →
      g.nestedFields .itemFields "" = .ok nested → row ∈ compiled.rows → Stands f c nested row →
      Stands f c schema fields

section Standing

variable {f : FieldSchema} {c : CompiledField} {schema : List FieldSchema}
variable {fields : List CompiledField}

theorem Stands.within (h : Stands f c schema fields) : Within c fields := by
  induction h with
  | here hmem => exact .here (List.of_mem_zip hmem).2
  | group hmem _ _ ih => exact .group (List.of_mem_zip hmem).2 ih
  | row hmem _ hrow _ ih => exact .row (List.of_mem_zip hmem).2 hrow ih

theorem Stands.makes (h : Stands f c schema fields)
    (hfields : List.Forall₂ Makes (sortByOrder schema) fields) : Makes f c := by
  induction h with
  | here hmem => exact List.forall₂_zip hfields hmem
  | group hmem hnested _ ih =>
    cases List.forall₂_zip hfields hmem with
    | group path hkind hnested' hinside =>
      cases hnested.symm.trans hnested'
      exact ih hinside
  | row hmem hnested hrow _ ih =>
    cases List.forall₂_zip hfields hmem with
    | repeated path hkind hnested' hinside =>
      cases hnested.symm.trans hnested'
      exact ih (hinside _ hrow)

/-- Every field of a form stands for a field of its schema. -/
theorem exists_stands (hc : Within c fields)
    (hfields : List.Forall₂ Makes (sortByOrder schema) fields) : ∃ f, Stands f c schema fields := by
  induction hc generalizing schema with
  | here hmem =>
    obtain ⟨f, hf⟩ := exists_mem_zip hfields.length_eq hmem
    exact ⟨f, .here hf⟩
  | group hmem _ ih =>
    obtain ⟨g, hg⟩ := exists_mem_zip hfields.length_eq hmem
    cases List.forall₂_zip hfields hg with
    | group path hkind hnested hinside =>
      obtain ⟨f, hf⟩ := ih hinside
      exact ⟨f, .group hg hnested hf⟩
  | row hmem hrow _ ih =>
    obtain ⟨g, hg⟩ := exists_mem_zip hfields.length_eq hmem
    cases List.forall₂_zip hfields hg with
    | repeated path hkind hnested hinside =>
      obtain ⟨f, hf⟩ := ih (hinside _ hrow)
      exact ⟨f, .row hg hnested hrow hf⟩

/-- The kind of a field decides whether it is compiled to a leaf. -/
theorem Makes.exists_leaf_iff (h : Makes f c) :
    (∃ leaf, c = .leaf leaf) ↔ f.kind ≠ .object ∧ f.kind ≠ .objectArray := by
  cases h with
  | leaf path initial hobject harray => exact ⟨fun _ => ⟨hobject, harray⟩, fun _ => ⟨_, rfl⟩⟩
  | group path hkind => exact ⟨nofun, fun hleaf => absurd hkind hleaf.1⟩
  | repeated path hkind => exact ⟨nofun, fun hleaf => absurd hkind hleaf.2⟩

theorem required_mem_rules (h : f.required = true) :
    .required (f.label ++ " is required") ∈ f.rules := by
  simp [rules, h]

end Standing

end FieldSchema

/-- What is written at the first path leaves something at the second, if there was something. -/
def FieldPath.Spares (p q : FieldPath) : Prop := q <+: p ∨ p.Diverges q

theorem isEmptyValue_writeAt (slot : Json) (s : Step) (rest : FieldPath) (v : Json) :
    isEmptyValue (some (slot.writeAt (s :: rest) v)) = false := by
  cases s with
  | key name => rfl
  | index i =>
    have hlength := Json.length_modifyItem (fun item => item.writeAt rest v) i slot.arrayItems
    rw [Json.writeAt, isEmptyValue, List.isEmpty_eq_false_iff, ← List.length_pos_iff, hlength]
    omega

namespace CompiledForm

section Writes

variable {values : Submission} {root : Json}

theorem isEmptyValue_writeLeaf {leaf f : LeafField} {name : String}
    (hlast : leaf.path.getLast? = some (.key name))
    (hvalue : isEmptyValue (Dict.get? values leaf.fullName) = false)
    (hspares : (Dict.get? values f.fullName).isSome → f.path.Spares leaf.path)
    (h : isEmptyValue (root.readAt leaf.path) = false) :
    isEmptyValue ((writeLeaf values root f).readAt leaf.path) = false := by
  unfold writeLeaf
  split
  · rename_i v hv
    rcases hspares (by rw [hv]; rfl) with ⟨rest, hrest⟩ | hdiverges
    · rw [← hrest, Json.readAt_writeAt_prefix]
      cases rest with
      | nil =>
        -- a leaf at the same path has the same full name, so it is written with the same value
        rw [List.append_nil] at hrest
        rw [LeafField.fullName, ← hrest, ← LeafField.fullName] at hv
        rwa [hv] at hvalue
      | cons s rest => exact isEmptyValue_writeAt _ s rest v
    · rw [Json.readAt_writeAt_of_diverges hdiverges hlast]
      exact h
  · exact h

theorem isEmptyValue_foldl_writeLeaf {leaf : LeafField} {name : String}
    (hlast : leaf.path.getLast? = some (.key name))
    (hvalue : isEmptyValue (Dict.get? values leaf.fullName) = false) {leaves : List LeafField}
    (hspares : ∀ f ∈ leaves, (Dict.get? values f.fullName).isSome → f.path.Spares leaf.path)
    (h : isEmptyValue (root.readAt leaf.path) = false) :
    isEmptyValue ((leaves.foldl (writeLeaf values) root).readAt leaf.path) = false := by
  induction leaves generalizing root with
  | nil => exact h
  | cons f rest ih =>
    obtain ⟨hf, hrest⟩ := List.forall_mem_cons.mp hspares
    exact ih hrest (isEmptyValue_writeLeaf hlast hvalue hf h)

/-- What one leaf does to a container that it is inside of or parts from. -/
theorem isEmptyValue_writeLeaf_container {path : FieldPath} {name : String}
    (hlast : path.getLast? = some (.key name)) {inside : List LeafField}
    (hinside : ∀ f ∈ inside, ∃ s rest, f.path = path ++ s :: rest) {f : LeafField}
    (houtside : f ∈ inside ∨ f.path.Diverges path) :
    isEmptyValue ((writeLeaf values root f).readAt path) = false ↔
      isEmptyValue (root.readAt path) = false ∨
        f ∈ inside ∧ (Dict.get? values f.fullName).isSome := by
  by_cases hf : f ∈ inside
  · cases hvalue : Dict.get? values f.fullName with
    | none => simp [writeLeaf, hvalue]
    | some v =>
      obtain ⟨s, rest, hpath⟩ := hinside f hf
      have hfilled : isEmptyValue ((writeLeaf values root f).readAt path) = false := by
        simp only [writeLeaf, hvalue, hpath, Json.readAt_writeAt_prefix]
        exact isEmptyValue_writeAt _ s rest v
      simp [hfilled, hf]
  · rw [readAt_writeLeaf_of_diverges (houtside.resolve_left hf) hlast]
    simp [hf]

/-- Where all leaves are inside a container or part from it, it is filled by those inside that have
a value. -/
theorem isEmptyValue_foldl_container {path : FieldPath} {name : String}
    (hlast : path.getLast? = some (.key name)) {inside leaves : List LeafField}
    (hinside : ∀ f ∈ inside, ∃ s rest, f.path = path ++ s :: rest)
    (houtside : ∀ f ∈ leaves, f ∈ inside ∨ f.path.Diverges path) :
    isEmptyValue ((leaves.foldl (writeLeaf values) root).readAt path) = false ↔
      isEmptyValue (root.readAt path) = false ∨
        ∃ f ∈ leaves, f ∈ inside ∧ (Dict.get? values f.fullName).isSome := by
  induction leaves generalizing root with
  | nil => simp
  | cons f rest ih =>
    obtain ⟨hf, hrest⟩ := List.forall_mem_cons.mp houtside
    rw [List.foldl_cons, ih hrest, isEmptyValue_writeLeaf_container hlast hinside hf, or_assoc]
    simp only [List.exists_mem_cons_iff]

end Writes

/-- What a payload holds for the required fields of a schema. Leaves that stand behind one in the
form are written after it. -/
structure HoldsRequired (schema : List FieldSchema) (form : CompiledForm) (values : Submission)
    (payload : Json) : Prop where
  covers : ∀ c, Within c form.fields → ∃ f, Stands f c schema form.fields
  leaf : ∀ f leaf before after, Stands f (.leaf leaf) schema form.fields → f.required = true →
    form.leaves = before ++ leaf :: after →
    (∀ later ∈ after, (Dict.get? values later.fullName).isSome → later.path.Spares leaf.path) →
    isEmptyValue (payload.readAt leaf.path) = false
  apart : AllLists NamesApart schema → ∀ f c, Stands f c schema form.fields → f.required = true →
    f.kind ≠ .object → f.kind ≠ .objectArray → isEmptyValue (payload.readAt c.path) = false
  /-- no rule is made for these, so being required makes no difference -/
  container : AllLists NamesApart schema → ∀ f c, Stands f c schema form.fields →
    f.kind = .object ∨ f.kind = .objectArray →
    (isEmptyValue (payload.readAt c.path) = false ↔
      ∃ leaf ∈ c.leaves, (Dict.get? values leaf.fullName).isSome)

section Payload

variable {schema : List FieldSchema} {form : CompiledForm} {values : Submission}

theorem value_of_required (hfields : List.Forall₂ Makes (sortByOrder schema) form.fields)
    (hvalues : ¬form.Refuses values) {f : FieldSchema} {leaf : LeafField}
    (hf : Stands f (.leaf leaf) schema form.fields) (hrequired : f.required = true)
    (hleaf : leaf ∈ form.leaves) : isEmptyValue (Dict.get? values leaf.fullName) = false := by
  have hrule : .required (f.label ++ " is required") ∈ leaf.rules := by
    cases hf.makes hfields with
    | leaf path initial hobject harray => exact required_mem_rules hrequired
  by_contra hempty
  refine hvalues ⟨leaf, hleaf, _, hrule, ?_⟩
  simpa [ValidationRule.passes] using hempty

variable (haddr : ∀ f ∈ form.fields, Addressed [] f)
include haddr

theorem toNested_at_required {leaf : LeafField} {before after : List LeafField}
    (hleaves : form.leaves = before ++ leaf :: after)
    (hvalue : isEmptyValue (Dict.get? values leaf.fullName) = false)
    (hspares : ∀ later ∈ after,
      (Dict.get? values later.fullName).isSome → later.path.Spares leaf.path) :
    isEmptyValue ((form.toNested values).readAt leaf.path) = false := by
  have hmem : leaf ∈ form.leaves := by simp [hleaves]
  have hlast : leaf.path.getLast? = some (.key leaf.name) :=
    (within_of_mem_leavesOf hmem).path_getLast? haddr
  rw [toNested_eq_foldl, hleaves, List.foldl_append, List.foldl_cons]
  refine isEmptyValue_foldl_writeLeaf hlast hvalue hspares ?_
  cases hget : Dict.get? values leaf.fullName with
  | none => simp [hget, isEmptyValue] at hvalue
  | some v =>
    simp only [writeLeaf, hget, Json.readAt_writeAt_self]
    rwa [hget] at hvalue

theorem toNested_at_container (hnames : DistinctNames form.fields) {c : CompiledField}
    (hc : Within c form.fields) (hcontainer : ∀ leaf, c ≠ .leaf leaf) :
    isEmptyValue ((form.toNested values).readAt c.path) = false ↔
      ∃ leaf ∈ c.leaves, (Dict.get? values leaf.fullName).isSome := by
  have hlast := hc.path_getLast? haddr
  have hinside : ∀ leaf ∈ c.leaves, ∃ s rest, leaf.path = c.path ++ s :: rest := by
    intro leaf hleaf
    obtain ⟨_, haddressed⟩ := hc.addressed haddr
    exact (haddressed.inside_path (mem_leaves_iff.mp hleaf)).resolve_left
      (Ne.symm (hcontainer leaf))
  have houtside : ∀ f ∈ form.leaves, f ∈ c.leaves ∨ f.path.Diverges c.path :=
    fun f hf => hc.leaf_inside_or_diverges haddr hnames hf
  rw [toNested_eq_foldl, isEmptyValue_foldl_container hlast hinside houtside,
    readAt_empty_of_getLast? hlast]
  constructor
  · rintro (hempty | ⟨leaf, _, hleaf, hvalue⟩)
    · cases hempty
    · exact ⟨leaf, hleaf, hvalue⟩
  · rintro ⟨leaf, hleaf, hvalue⟩
    exact Or.inr ⟨leaf, hc.leaves_subset hleaf, hleaf, hvalue⟩

theorem holdsRequired_toNested
    (hfields : List.Forall₂ Makes (sortByOrder schema) form.fields)
    (hvalues : ¬form.Refuses values) : HoldsRequired schema form values (form.toNested values) where
  covers c hc := exists_stands hc hfields
  leaf := by
    intro f leaf before after hf hrequired hleaves hspares
    have hmem : leaf ∈ form.leaves := by simp [hleaves]
    exact toNested_at_required haddr hleaves
      (value_of_required hfields hvalues hf hrequired hmem) hspares
  apart := by
    intro hnames f c hf hrequired hobject harray
    obtain ⟨leaf, rfl⟩ := (hf.makes hfields).exists_leaf_iff.mpr ⟨hobject, harray⟩
    have hdistinct := distinctNames_of_makes hfields hnames
    have hmem : leaf ∈ form.leaves := hf.within.leaves_subset (mem_leaves_leaf.mpr rfl)
    obtain ⟨before, after, hleaves⟩ := List.append_of_mem hmem
    refine toNested_at_required haddr hleaves
      (value_of_required hfields hvalues hf hrequired hmem) (fun later hlater _ => ?_)
    have hlater : later ∈ form.leaves := by
      rw [hleaves]
      exact List.mem_append_right before (List.mem_cons_of_mem _ hlater)
    refine (hf.within.leaf_inside_or_diverges haddr hdistinct hlater).imp_left (fun hsame => ?_)
    obtain rfl := mem_leaves_leaf.mp hsame
    exact List.prefix_rfl
  container := by
    intro hnames f c hf hkind
    refine toNested_at_container haddr (distinctNames_of_makes hfields hnames) hf.within ?_
    rintro leaf rfl
    have hleaf := (hf.makes hfields).exists_leaf_iff.mp ⟨leaf, rfl⟩
    exact hkind.elim hleaf.1 hleaf.2

end Payload

/-- Whenever a submission to a compiled form posts, edited or not, what it posts holds the required
fields. -/
theorem posted_holdsRequired {schema : FormSchema} {seed : Option Properties} {form : CompiledForm}
    (h : compile schema seed = .ok form) (edits : List RowEdit) (t : Transport)
    (values : Submission) (given : Option Registry) (shared : SharedRegistry) (j : Journal)
    {url : String} {payload : Json}
    (hposted : (((form.edited edits).submit t values given shared).run j).2.calls =
      j.calls ++ [.post url payload]) :
    HoldsRequired schema.fields (form.edited edits) values payload := by
  have hcalls : j.calls ≠ j.calls ++ [.post url payload] := by simp
  by_cases haction : (form.edited edits).action = ""
  · rw [submit_of_no_action t given shared j haction] at hposted
    exact absurd hposted hcalls
  · by_cases hvalues : (form.edited edits).Refuses values
    · rw [submit_of_refuses t given shared j haction hvalues] at hposted
      exact absurd hposted hcalls
    · rw [(submit_of_passes t given shared j haction hvalues).1] at hposted
      have hpayload : (form.edited edits).toNested values = payload := by
        simp only [List.append_cancel_left_eq, List.cons.injEq, Call.post.injEq,
          and_true] at hposted
        exact hposted.2
      rw [← hpayload]
      exact holdsRequired_toNested (addressed_edited (addressed_of_compile h) edits)
        (makes_edited h edits) hvalues

end CompiledForm

theorem sale_holds_customer_and_items :
    compiledSale = .ok saleForm ∧ ∃ payload,
      (((saleForm.edited orderEdits).submit echo saleValues none {}).run {}).2.calls =
        [.post "/sales" payload] ∧
      isEmptyValue (payload.readAt [.key "customer"]) = false ∧
      isEmptyValue (payload.readAt [.key "items"]) = false := by
  have h : compiledSale = .ok saleForm := rfl
  have hposted : (((saleForm.edited orderEdits).submit echo saleValues none {}).run {}).2.calls =
      [.post "/sales" ((saleForm.edited orderEdits).toNested saleValues)] := rfl
  have hholds := CompiledForm.posted_holdsRequired h orderEdits echo saleValues none {} {} hposted
  have hnames : AllLists NamesApart
      [{ name := "customer", label := "Customer", required := true }, orderItems] := by
    decide +kernel
  refine ⟨h, _, hposted, ?_, ?_⟩
  · exact hholds.apart hnames _ _ (.here List.mem_cons_self) rfl (by decide) (by decide)
  · refine (hholds.container hnames _ _
      (.here (List.mem_cons_of_mem _ List.mem_cons_self)) (Or.inr rfl)).mpr ?_
    -- the third leaf of the list is the number of the second item
    exact ⟨_, List.mem_of_getElem? (i := 2) rfl, rfl⟩

/-- A group and a list that are required, without a value for them. -/
def requiredContainers : FormSchema where
  fields := [
    { name := "g"
      label := "G"
      kind := .object
      required := true
      properties := some [("fields", .arr [.obj [("name", .str "a")]])] },
    { name := "rows"
      label := "Rows"
      kind := .objectArray
      required := true
      properties := some [("itemFields", .arr [.obj [("name", .str "a")]])] }]
  action := "/x"

/-- A required field in a group that shares its name with a field behind it. -/
def shadowedSchema : FormSchema where
  fields := [
    { name := "g"
      kind := .object
      properties := some [("fields", .arr [.obj [("name", .str "a"), ("required", .bool true)]])] },
    { name := "g" }]
  action := "/x"

/-- A submission is posted although there is no value at the path of a required field. -/
def PostsWithout (schema : FormSchema) (values : Submission) (path : FieldPath) : Prop :=
  ∃ form f c payload, CompiledForm.compile schema none = .ok form ∧
    FieldSchema.Stands f c schema.fields form.fields ∧ f.required = true ∧ c.path = path ∧
    ((form.submit echo values none {}).run {}).2.calls = [.post schema.action payload] ∧
    isEmptyValue (payload.readAt path) = true

theorem required_not_posted :
    PostsWithout requiredContainers [] [.key "g"] ∧
      PostsWithout requiredContainers [] [.key "rows"] ∧
      PostsWithout shadowedSchema [("g", .null), ("g.a", .str "x")] [.key "g", .key "a"] := by
  refine ⟨⟨_, _, _, _, rfl, .here List.mem_cons_self, rfl, rfl, rfl, rfl⟩,
    ⟨_, _, _, _, rfl, .here (List.mem_cons_of_mem _ List.mem_cons_self), rfl, rfl, rfl, rfl⟩,
    ⟨_, _, _, _, rfl, .group List.mem_cons_self rfl (.here List.mem_cons_self), rfl, rfl, rfl, rfl⟩⟩

end UiSchema
