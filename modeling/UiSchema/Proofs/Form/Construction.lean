import Mathlib.Data.List.Forall2
import UiSchema.Proofs.Form.NestedLists
import UiSchema.Proofs.Form.RowEdits
import UiSchema.Proofs.Form.Siblings

/-!
# What a schema and its form have in common

A compiled form has one compiled field for each field of its schema, in display order, inside every
group and in every row. Rows that are added are made of the same item fields, and rows that move up
keep everything but their numbers, so this outlasts all edits. Names that are distinct in the lists
of the schema are distinct among the siblings of the form.
-/

namespace UiSchema

set_option autoImplicit false

open CompiledField

theorem exists_mem_zip {α β : Type} {as : List α} {bs : List β} (h : as.length = bs.length)
    {b : β} (hb : b ∈ bs) : ∃ a, (a, b) ∈ as.zip bs := by
  obtain ⟨i, hi⟩ := List.getElem?_of_mem hb
  have hlt : i < as.length := h ▸ (List.getElem?_eq_some_iff.mp hi).1
  refine ⟨as[i], List.mem_iff_getElem?.mpr ⟨i, ?_⟩⟩
  exact List.getElem?_zip_eq_some.mpr ⟨List.getElem?_eq_getElem hlt, hi⟩

theorem exists_related_of_mem {α β : Type} {R : α → β → Prop} {as : List α} {bs : List β}
    (h : List.Forall₂ R as bs) {b : β} (hb : b ∈ bs) : ∃ a ∈ as, R a b := by
  obtain ⟨a, ha⟩ := exists_mem_zip h.length_eq hb
  exact ⟨a, (List.of_mem_zip ha).1, List.forall₂_zip h ha⟩

theorem forall₂_of_mem {α β : Type} {R S : α → β → Prop} {as : List α} {bs : List β}
    (h : List.Forall₂ R as bs) (hS : ∀ a ∈ as, ∀ b, R a b → S a b) : List.Forall₂ S as bs :=
  ((List.forall₂_and_left as bs).mpr ⟨hS, h⟩).imp (fun _ b hab => hab.1 b hab.2)

theorem forall₂_of_mem_right {α β : Type} {R S : α → β → Prop} {as : List α} {bs : List β}
    (h : List.Forall₂ R as bs) (hS : ∀ b ∈ bs, ∀ a, R a b → S a b) : List.Forall₂ S as bs :=
  (forall₂_of_mem h.flip hS).flip

namespace FieldSchema

section DisplayOrder

theorem insertOrdered_perm (f : FieldSchema) (fields : List FieldSchema) :
    (insertOrdered f fields).Perm (f :: fields) := by
  induction fields with
  | nil => exact .refl _
  | cons g rest ih =>
    rw [insertOrdered]
    split
    · exact .refl _
    · exact (ih.cons g).trans (.swap f g rest)

theorem sortByOrder_perm (fields : List FieldSchema) : (sortByOrder fields).Perm fields := by
  induction fields with
  | nil => exact .refl _
  | cons f rest ih => exact (insertOrdered_perm f (sortByOrder rest)).trans (ih.cons f)

/-- The fields stand in display order. -/
def Ordered (fields : List FieldSchema) : Prop :=
  fields.Pairwise (fun f g => f.orderKey.totalKey ≤ g.orderKey.totalKey)

theorem ordered_insertOrdered (f : FieldSchema) {fields : List FieldSchema} (h : Ordered fields) :
    Ordered (insertOrdered f fields) := by
  induction fields with
  | nil => exact List.pairwise_singleton _ f
  | cons g rest ih =>
    obtain ⟨hg, hrest⟩ := List.pairwise_cons.mp h
    rw [insertOrdered]
    split
    · rename_i hfg
      refine List.pairwise_cons.mpr ⟨fun e he => ?_, h⟩
      rcases List.mem_cons.mp he with rfl | he
      · exact hfg
      · exact Int.le_trans hfg (hg e he)
    · rename_i hfg
      refine List.pairwise_cons.mpr ⟨fun e he => ?_, ih hrest⟩
      rcases mem_insertOrdered.mp he with rfl | he
      · omega
      · exact hg e he

theorem ordered_sortByOrder (fields : List FieldSchema) : Ordered (sortByOrder fields) := by
  induction fields with
  | nil => exact .nil
  | cons f rest ih => exact ordered_insertOrdered f ih

theorem sortByOrder_of_ordered {fields : List FieldSchema} (h : Ordered fields) :
    sortByOrder fields = fields := by
  induction fields with
  | nil => rfl
  | cons f rest ih =>
    obtain ⟨hf, hrest⟩ := List.pairwise_cons.mp h
    rw [sortByOrder, List.foldr_cons, ← sortByOrder, ih hrest]
    cases rest with
    | nil => rfl
    | cons g rest => rw [insertOrdered, if_pos (hf g List.mem_cons_self)]

theorem sortByOrder_sortByOrder (fields : List FieldSchema) :
    sortByOrder (sortByOrder fields) = sortByOrder fields :=
  sortByOrder_of_ordered (ordered_sortByOrder fields)

end DisplayOrder

/-- The field lists of a schema: the list of its own fields, and the lists inside the groups and
repetitions of every other one. -/
inductive ListIn (schema : List FieldSchema) : List FieldSchema → Prop
  | own : ListIn schema schema
  | inside {fields nested : List FieldSchema} {f : FieldSchema} {key : NestedKey} :
      ListIn schema fields → f ∈ fields → f.nestedKey? = some key →
      f.nestedFields key "" = .ok nested → ListIn schema nested

/-- All field lists of the schema have a property. -/
def AllLists (P : List FieldSchema → Prop) (schema : List FieldSchema) : Prop :=
  ∀ fields, ListIn schema fields → P fields

theorem AllLists.inside {P : List FieldSchema → Prop} {schema nested : List FieldSchema}
    (h : AllLists P schema) {f : FieldSchema} (hf : f ∈ schema) {key : NestedKey}
    (hkey : f.nestedKey? = some key) (hnested : f.nestedFields key "" = .ok nested) :
    AllLists P nested := by
  intro fields hfields
  refine h fields ?_
  induction hfields with
  | own => exact .inside .own hf hkey hnested
  | inside _ hg hkey hread ih => exact .inside ih hg hkey hread

theorem listIn_iff {schema fields : List FieldSchema} :
    ListIn schema fields ↔ fields = schema ∨ ∃ f ∈ schema, ∃ key nested,
      f.nestedKey? = some key ∧ f.nestedFields key "" = .ok nested ∧ ListIn nested fields := by
  constructor
  · intro h
    induction h with
    | own => exact Or.inl rfl
    | @inside _ nested g key _ hg hkey hnested ih =>
      rcases ih with rfl | ⟨f, hf, key', nested', hkey', hnested', hin⟩
      · exact Or.inr ⟨g, hg, key, nested, hkey, hnested, .own⟩
      · exact Or.inr ⟨f, hf, key', nested', hkey', hnested', .inside hin hg hkey hnested⟩
  · rintro (rfl | ⟨f, hf, key, nested, hkey, hnested, hin⟩)
    · exact .own
    · induction hin with
      | own => exact .inside .own hf hkey hnested
      | inside _ hg hkey hnested ih => exact .inside ih hg hkey hnested

section Check

/-- The list that a field holds, if it holds one. -/
def heldList? (f : FieldSchema) : Option (List FieldSchema) :=
  f.nestedKey?.bind (fun key => (f.nestedFields key "").toOption)

theorem heldList?_eq_some {f : FieldSchema} {nested : List FieldSchema} :
    f.heldList? = some nested ↔
      ∃ key, f.nestedKey? = some key ∧ f.nestedFields key "" = .ok nested := by
  rw [heldList?, Option.bind_eq_some_iff]
  refine exists_congr (fun key => and_congr_right (fun _ => ?_))
  cases f.nestedFields key "" <;> simp [Except.toOption]

/-- The field lists of a schema, down to a depth. -/
def listsWithin : Nat → List FieldSchema → List (List FieldSchema)
  | 0, fields => [fields]
  | depth + 1, fields =>
    fields :: fields.flatMap (fun f => (f.heldList?.map (listsWithin depth)).getD [])

theorem mem_listsWithin {depth : Nat} {schema : List FieldSchema} (h : nestingOf schema ≤ depth)
    {fields : List FieldSchema} : fields ∈ listsWithin depth schema ↔ ListIn schema fields := by
  induction depth generalizing schema with
  | zero =>
    rw [listsWithin, List.mem_singleton, listIn_iff]
    refine ⟨Or.inl, fun hin => hin.resolve_right ?_⟩
    rintro ⟨f, hf, key, nested, _, hnested, _⟩
    have hlt := nestingOf_lt_nesting hnested
    have hle := nesting_le_nestingOf hf
    omega
  | succ depth ih =>
    rw [listsWithin, List.mem_cons, listIn_iff, List.mem_flatMap]
    refine or_congr_right (exists_congr (fun f => and_congr_right (fun hf => ?_)))
    have hheld {key : NestedKey} {nested : List FieldSchema}
        (hnested : f.nestedFields key "" = .ok nested) :
        fields ∈ listsWithin depth nested ↔ ListIn nested fields := by
      have hlt := nestingOf_lt_nesting hnested
      have hle := nesting_le_nestingOf hf
      exact ih (by omega)
    constructor
    · intro hmem
      cases hlist : f.heldList? with
      | none => simp [hlist] at hmem
      | some nested =>
        obtain ⟨key, hkey, hnested⟩ := heldList?_eq_some.mp hlist
        rw [hlist] at hmem
        exact ⟨key, nested, hkey, hnested, (hheld hnested).mp hmem⟩
    · rintro ⟨key, nested, hkey, hnested, hin⟩
      rw [heldList?_eq_some.mpr ⟨key, hkey, hnested⟩]
      exact (hheld hnested).mpr hin

instance (P : List FieldSchema → Prop) [DecidablePred P] (schema : List FieldSchema) :
    Decidable (AllLists P schema) :=
  decidable_of_iff (∀ fields ∈ listsWithin (nestingOf schema) schema, P fields)
    (forall_congr' (fun _ => imp_congr_left (mem_listsWithin (Nat.le_refl _))))

end Check

/-- The compiled field is made of the field, with fields for all of the list in a group and in every
row. -/
inductive Makes : FieldSchema → CompiledField → Prop
  | leaf {f : FieldSchema} (path : FieldPath) (initial : Option Json) :
      f.kind ≠ .object → f.kind ≠ .objectArray →
      Makes f (.leaf ⟨path, f.name, f.label, f.kind, f.required, initial, f.rules, f.properties⟩)
  | group {f : FieldSchema} (path : FieldPath) {nested : List FieldSchema}
      {fields : List CompiledField} : f.kind = .object → f.nestedFields .fields "" = .ok nested →
      List.Forall₂ Makes (sortByOrder nested) fields →
      Makes f (.group ⟨path, f.name, f.label, fields⟩)
  | repeated {f : FieldSchema} (path : FieldPath) {nested : List FieldSchema}
      {rows : List (List CompiledField)} : f.kind = .objectArray →
      f.nestedFields .itemFields "" = .ok nested →
      (∀ row ∈ rows, List.Forall₂ Makes (sortByOrder nested) row) →
      Makes f (.repeated ⟨path, f.name, f.label, sortByOrder nested, rows⟩)

theorem Makes.name_eq {f : FieldSchema} {c : CompiledField} (h : Makes f c) : c.name = f.name := by
  cases h with
  | leaf => rfl
  | group => rfl
  | repeated => rfl

theorem Compiles.name_eq {compile : Compiler} {parent : FieldPath} {seed : Seed} {f : FieldSchema}
    {c : CompiledField} (h : Compiles compile parent seed f c) : c.name = f.name := by
  cases h with
  | leaf => rfl
  | group => rfl
  | repeated => rfl

theorem forall₂_of_compileAll {one : FieldSchema → Except SchemaError CompiledField}
    {fields : List FieldSchema} {result : List CompiledField}
    (h : compileAll one fields = .ok result) :
    List.Forall₂ (fun f c => one f = .ok c) fields result := by
  induction fields generalizing result with
  | nil =>
    cases h
    exact .nil
  | cons f rest ih =>
    simp only [compileAll, bind_eq_ok, Except.ok.injEq] at h
    obtain ⟨first, hfirst, others, hothers, rfl⟩ := h
    exact .cons hfirst (ih hothers)

theorem makes_compileWithin (depth : Nat) :
    ∀ ⦃fields parent seed result⦄, compileWithin depth fields parent seed = .ok result →
      List.Forall₂ Makes (sortByOrder fields) result := by
  refine compileWithin_of_level (P := fun compile => ∀ ⦃fields parent seed result⦄,
    compile fields parent seed = .ok result → List.Forall₂ Makes (sortByOrder fields) result)
    ?_ (fun compile ih => ?_) depth
  · intro fields parent seed result hresult
    exact absurd hresult refuseAll_ne_ok
  · intro fields parent seed result hresult
    refine (forall₂_of_compileAll hresult).imp (fun f c hc => ?_)
    cases compileField_eq_ok.mp hc with
    | leaf hobject harray => exact .leaf _ _ hobject harray
    | group hkind hnested hfields =>
      exact .group _ hkind (nestedFields_path hnested "") (ih hfields)
    | repeated hkind hnested hrows =>
      refine .repeated _ hkind (nestedFields_path hnested "") (fun row hrow => ?_)
      obtain ⟨i, hi⟩ := List.getElem?_of_mem hrow
      obtain ⟨_, _, hcompile⟩ := getElem?_of_compileRows hrows hi
      -- item fields are put in order once more with each row
      rw [← sortByOrder_sortByOrder]
      exact ih hcompile

theorem makes_of_compile {fields : List FieldSchema} {parent : FieldPath} {seed : Seed}
    {result : List CompiledField} (h : compile fields parent seed = .ok result) :
    List.Forall₂ Makes (sortByOrder fields) result :=
  makes_compileWithin _ h

theorem forall₂_reindex {fields : List FieldSchema} {result : List CompiledField} {depth i : Nat}
    (h : List.Forall₂ Makes fields result)
    (hreindex : ∀ c ∈ result, ∀ f, Makes f c → Makes f (c.reindex depth i)) :
    List.Forall₂ Makes fields (result.map (reindex depth i)) := by
  induction h with
  | nil => exact .nil
  | cons hfirst _ ih =>
    obtain ⟨hc, hrest⟩ := List.forall_mem_cons.mp hreindex
    exact .cons (hc _ hfirst) (ih hrest)

theorem Makes.reindex {f : FieldSchema} {c : CompiledField} (h : Makes f c) (depth i : Nat) :
    Makes f (c.reindex depth i) := by
  induction c using CompiledField.induction generalizing f with
  | leaf leaf =>
    rw [reindex_leaf]
    cases h with
    | leaf path initial hobject harray => exact .leaf _ _ hobject harray
  | group g ih =>
    rw [reindex_group]
    cases h with
    | group path hkind hnested hfields =>
      exact .group _ hkind hnested (forall₂_reindex hfields (fun c hc _ hmakes => ih c hc hmakes))
  | repeated g ih =>
    rw [reindex_repeated]
    cases h with
    | repeated path hkind hnested hrows =>
      refine .repeated _ hkind hnested ?_
      rw [List.forall_mem_map]
      exact fun row hrow =>
        forall₂_reindex (hrows row hrow) (fun c hc _ hmakes => ih row hrow c hc hmakes)

end FieldSchema

open FieldSchema

namespace RepeatGroup

theorem forall₂_renumber {fields : List FieldSchema} {rows : List (List CompiledField)}
    (h : ∀ row ∈ rows, List.Forall₂ Makes fields row) (depth start : Nat) :
    ∀ row ∈ renumber depth start rows, List.Forall₂ Makes fields row := by
  induction rows generalizing start with
  | nil => exact List.forall_mem_nil _
  | cons first rest ih =>
    obtain ⟨hfirst, hrest⟩ := List.forall_mem_cons.mp h
    rw [renumber, reindexList_eq_map]
    refine List.forall_mem_cons.mpr ⟨?_, ih hrest (start + 1)⟩
    exact forall₂_reindex hfirst (fun _ _ _ hmakes => hmakes.reindex depth start)

theorem makes_of_edited {g new : RepeatGroup CompiledField} (h : g.Edited new) {f : FieldSchema}
    (hg : Makes f (.repeated g)) : Makes f (.repeated new) := by
  cases hg with
  | @repeated _ path nested rows hkind hnested hrows =>
    cases h with
    | added hadd =>
      obtain ⟨row, hrow, _, rfl⟩ := add_eq_ok.mp hadd
      refine .repeated _ hkind hnested (fun other hother => ?_)
      rcases List.mem_append.mp hother with hother | hother
      · exact hrows other hother
      · rw [List.mem_singleton.mp hother, ← sortByOrder_sortByOrder]
        exact makes_of_compile hrow
    | removed index =>
      by_cases hindex : index < rows.length
      · rw [remove_of_lt hindex]
        refine .repeated _ hkind hnested (fun row hrow => ?_)
        rcases List.mem_append.mp hrow with hrow | hrow
        · exact hrows row (List.mem_of_mem_take hrow)
        · refine forall₂_renumber (fun other hother => ?_) _ _ row hrow
          exact hrows other (List.mem_of_mem_drop hother)
      · rw [remove_of_le (Nat.not_lt.mp hindex)]
        exact .repeated _ hkind hnested hrows

end RepeatGroup

theorem forall₂_replace {α β : Type} {R : α → β → Prop} {as : List α} {before after : List β}
    {x y : β} (h : List.Forall₂ R as (before ++ x :: after)) (hy : ∀ a, R a x → R a y) :
    List.Forall₂ R as (before ++ y :: after) := by
  induction before generalizing as with
  | nil =>
    cases h with
    | cons hx hafter => exact .cons (hy _ hx) hafter
  | cons b before ih =>
    cases h with
    | cons hb hrest => exact .cons hb (ih hrest)

theorem CompiledField.Replaced.makes {old new : RepeatGroup CompiledField}
    {fields fields' : List CompiledField} (h : Replaced old new fields fields')
    (hnew : ∀ f, Makes f (.repeated old) → Makes f (.repeated new)) {schema : List FieldSchema}
    (hfields : List.Forall₂ Makes schema fields) : List.Forall₂ Makes schema fields' := by
  induction h generalizing schema with
  | here before after => exact forall₂_replace hfields hnew
  | group before after g _ ih =>
    refine forall₂_replace hfields (fun f hg => ?_)
    cases hg with
    | group path hkind hnested hinside => exact .group _ hkind hnested (ih hinside)
  | row before after g above below hrows _ ih =>
    refine forall₂_replace hfields (fun f hg => ?_)
    cases hg with
    | repeated path hkind hnested hinside =>
      refine .repeated _ hkind hnested ?_
      simp only at hrows
      rw [hrows] at hinside
      exact forall_mem_replace hinside ih

namespace CompiledForm

theorem makes_edited {schema : FormSchema} {seed : Option Properties} {form : CompiledForm}
    (h : compile schema seed = .ok form) (edits : List RowEdit) :
    List.Forall₂ Makes (sortByOrder schema.fields) (form.edited edits).fields :=
  edited_of_step (P := fun fields => List.Forall₂ Makes (sortByOrder schema.fields) fields)
    (fun hnew hreplaced hfields =>
      hreplaced.makes (fun _ hold => RepeatGroup.makes_of_edited hnew hold) hfields)
    (makes_of_compile (fields_of_compile h)) edits

end CompiledForm

namespace FieldSchema

/-- No two fields of the list share a name. -/
def NamesApart (fields : List FieldSchema) : Prop := fields.Pairwise (fun f g => f.name ≠ g.name)

instance (fields : List FieldSchema) : Decidable (NamesApart fields) :=
  inferInstanceAs (Decidable (fields.Pairwise (fun f g => f.name ≠ g.name)))

theorem NamesApart.perm {fields other : List FieldSchema} (h : NamesApart fields)
    (hperm : other.Perm fields) : NamesApart other :=
  hperm.symm.pairwise h (fun hne => hne.symm)

theorem NamesApart.eq_of_name {fields : List FieldSchema} (h : NamesApart fields)
    {f g : FieldSchema} (hf : f ∈ fields) (hg : g ∈ fields) (hname : f.name = g.name) : f = g :=
  List.inj_on_of_nodup_map (List.pairwise_map.mpr h) hf hg hname

/-- Compiled fields with the names of the fields of a list are as distinct as these. -/
theorem NamesApart.pairwise_names {schema : List FieldSchema} (hnames : NamesApart schema)
    {R : FieldSchema → CompiledField → Prop} (hR : ∀ f c, R f c → c.name = f.name)
    {fields : List CompiledField} (h : List.Forall₂ R (sortByOrder schema) fields) :
    fields.Pairwise (fun c c' => c.name ≠ c'.name) := by
  have hsame : fields.map CompiledField.name = (sortByOrder schema).map FieldSchema.name := by
    clear hnames
    generalize sortByOrder schema = sorted at h ⊢
    induction h with
    | nil => rfl
    | cons hfirst _ ih => rw [List.map_cons, List.map_cons, hR _ _ hfirst, ih]
  rw [← List.pairwise_map (f := CompiledField.name), hsame, List.pairwise_map]
  exact hnames.perm (sortByOrder_perm schema)

theorem distinctNames_of_inside {schema : List FieldSchema} {fields : List CompiledField}
    (h : List.Forall₂ Makes (sortByOrder schema) fields) (hnames : AllLists NamesApart schema)
    (hinside : ∀ c ∈ fields, ∀ f ∈ schema, Makes f c → DistinctInside c) :
    DistinctNames fields := by
  rw [distinctNames_iff_inside]
  constructor
  · exact (hnames schema .own).pairwise_names (fun _ _ hmakes => hmakes.name_eq) h
  · intro c hc
    obtain ⟨f, hf, hmakes⟩ := exists_related_of_mem h hc
    exact hinside c hc f (mem_sortByOrder.mp hf) hmakes

theorem distinctInside_of_makes {f : FieldSchema} {c : CompiledField} (h : Makes f c)
    {schema : List FieldSchema} (hf : f ∈ schema) (hnames : AllLists NamesApart schema) :
    DistinctInside c := by
  induction c using CompiledField.induction generalizing f schema with
  | leaf leaf => exact ⟨nofun, nofun⟩
  | group g ih =>
    refine ⟨fun g' heq => ?_, nofun⟩
    cases heq
    cases h with
    | group path hkind hnested hfields =>
      have hlists := hnames.inside hf (nestedKey?_eq_fields.mpr hkind) hnested
      exact distinctNames_of_inside hfields hlists
        (fun c hc _ hmem hmakes => ih c hc hmakes hmem hlists)
  | repeated g ih =>
    refine ⟨nofun, fun g' heq row hrow => ?_⟩
    cases heq
    cases h with
    | repeated path hkind hnested hrows =>
      have hlists := hnames.inside hf (nestedKey?_eq_itemFields.mpr hkind) hnested
      exact distinctNames_of_inside (hrows row hrow) hlists
        (fun c hc _ hmem hmakes => ih row hrow c hc hmakes hmem hlists)

theorem distinctNames_of_makes {schema : List FieldSchema} {fields : List CompiledField}
    (h : List.Forall₂ Makes (sortByOrder schema) fields) (hnames : AllLists NamesApart schema) :
    DistinctNames fields :=
  distinctNames_of_inside h hnames (fun _ _ _ hf hmakes => distinctInside_of_makes hmakes hf hnames)

end FieldSchema

end UiSchema
