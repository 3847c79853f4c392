import UiSchema.Proofs.Form.Construction
import UiSchema.Proofs.Form.Seeding
import UiSchema.Proofs.Text.Dotted

/-!
# Full names

The full name of a field is the text of its path. When siblings have distinct names, two positions
in a form have paths that part at two names or at two row numbers, or one of them lies inside the
other, so the texts of their steps differ. When no name holds a dot these are found again in the
full name. So over such a schema full names tell all leaves and all repeat groups apart, whatever
rows were added and removed.
-/

namespace UiSchema

set_option autoImplicit false

open CompiledField FieldSchema

namespace CompiledField

section Nodes

mutual

/-- A field and all fields inside it, each before those inside it. -/
def nodes : CompiledField → List CompiledField
  | .leaf f => [.leaf f]
  | .group ⟨path, name, label, fields⟩ => .group ⟨path, name, label, fields⟩ :: nodesOf fields
  | .repeated ⟨path, name, label, itemFields, rows⟩ =>
    .repeated ⟨path, name, label, itemFields, rows⟩ :: nodesOfRows rows

def nodesOf : List CompiledField → List CompiledField
  | [] => []
  | f :: rest => nodes f ++ nodesOf rest

def nodesOfRows : List (List CompiledField) → List CompiledField
  | [] => []
  | row :: rest => nodesOf row ++ nodesOfRows rest

end

def asLeaf? : CompiledField → Option LeafField
  | .leaf f => some f
  | _ => none

def asRepeat? : CompiledField → Option (RepeatGroup CompiledField)
  | .repeated g => some g
  | _ => none

theorem asLeaf?_eq_some {f : CompiledField} {leaf : LeafField} :
    f.asLeaf? = some leaf ↔ f = .leaf leaf := by
  cases f <;> simp [asLeaf?]

theorem asRepeat?_eq_some {f : CompiledField} {g : RepeatGroup CompiledField} :
    f.asRepeat? = some g ↔ f = .repeated g := by
  cases f <;> simp [asRepeat?]

/-- The repeat groups among fields and inside them, in display order. -/
def repeatsOf (fields : List CompiledField) : List (RepeatGroup CompiledField) :=
  (nodesOf fields).filterMap asRepeat?

theorem nodesOf_eq_flatMap (fields : List CompiledField) :
    nodesOf fields = fields.flatMap nodes := by
  induction fields with
  | nil => rfl
  | cons f rest ih => simp only [nodesOf, ih, List.flatMap_cons]

theorem nodesOfRows_eq_flatMap (rows : List (List CompiledField)) :
    nodesOfRows rows = rows.flatMap nodesOf := by
  induction rows with
  | nil => rfl
  | cons row rest ih => simp only [nodesOfRows, ih, List.flatMap_cons]

theorem nodes_group (g : GroupField CompiledField) :
    (group g).nodes = .group g :: nodesOf g.fields := by
  rw [nodes]

theorem nodes_repeated (g : RepeatGroup CompiledField) :
    (repeated g).nodes = .repeated g :: g.rows.flatMap nodesOf := by
  rw [nodes, nodesOfRows_eq_flatMap]

theorem filterMap_nodesOf {α : Type} (select : CompiledField → Option α)
    {collected : CompiledField → List α} {fields : List CompiledField}
    (h : ∀ f ∈ fields, f.nodes.filterMap select = collected f) :
    (nodesOf fields).filterMap select = fields.flatMap collected := by
  rw [nodesOf_eq_flatMap, List.filterMap_flatMap]
  exact List.flatMap_congr h

theorem filterMap_asLeaf?_nodes (f : CompiledField) : f.nodes.filterMap asLeaf? = f.leaves := by
  induction f using CompiledField.induction with
  | leaf f => rw [nodes, leaves]; rfl
  | group g ih =>
    rw [nodes_group, leaves, leavesOf_eq_flatMap, ← filterMap_nodesOf asLeaf? ih]
    rfl
  | repeated g ih =>
    rw [nodes_repeated, leaves, leavesOfRows_eq_flatMap, List.filterMap_cons_none rfl,
      List.filterMap_flatMap]
    refine List.flatMap_congr (fun row hrow => ?_)
    rw [filterMap_nodesOf asLeaf? (ih row hrow), leavesOf_eq_flatMap]

theorem filterMap_asLeaf?_nodesOf (fields : List CompiledField) :
    (nodesOf fields).filterMap asLeaf? = leavesOf fields := by
  rw [leavesOf_eq_flatMap]
  exact filterMap_nodesOf asLeaf? (fun f _ => filterMap_asLeaf?_nodes f)

theorem mem_leaves_iff {leaf : LeafField} {f : CompiledField} :
    leaf ∈ f.leaves ↔ .leaf leaf ∈ f.nodes := by
  rw [← filterMap_asLeaf?_nodes, List.mem_filterMap]
  simp only [asLeaf?_eq_some, exists_eq_right]

theorem within_of_mem_nodes {x f : CompiledField} (hx : x ∈ f.nodes) {fields : List CompiledField}
    (hf : f ∈ fields) : Within x fields := by
  induction f using CompiledField.induction generalizing fields with
  | leaf f =>
    rw [nodes, List.mem_singleton] at hx
    exact .here (hx ▸ hf)
  | group g ih =>
    rw [nodes_group, List.mem_cons, nodesOf_eq_flatMap, List.mem_flatMap] at hx
    rcases hx with rfl | ⟨f, hmem, hx⟩
    · exact .here hf
    · exact .group hf (ih f hmem hx hmem)
  | repeated g ih =>
    rw [nodes_repeated, List.mem_cons, List.mem_flatMap] at hx
    rcases hx with rfl | ⟨row, hrow, hx⟩
    · exact .here hf
    · rw [nodesOf_eq_flatMap, List.mem_flatMap] at hx
      obtain ⟨f, hmem, hx⟩ := hx
      exact .row hf hrow (ih row hrow f hmem hx hmem)

theorem within_of_mem_nodesOf {x : CompiledField} {fields : List CompiledField}
    (hx : x ∈ nodesOf fields) : Within x fields := by
  rw [nodesOf_eq_flatMap, List.mem_flatMap] at hx
  obtain ⟨f, hf, hx⟩ := hx
  exact within_of_mem_nodes hx hf

end Nodes

section Lookup

variable (name : String)

/-- What looking a repeat group up does at one field. -/
def repeatAt? (f : CompiledField) : Option (RepeatGroup CompiledField) :=
  (actOnRepeat name (fun g => (g, g)) f).map Prod.fst

theorem repeat?_cons (f : CompiledField) (rest : List CompiledField) :
    repeat? (f :: rest) name = (f.repeatAt? name).or (repeat? rest name) := by
  rw [repeat?, repeatAt?, actOnRepeatIn]
  cases actOnRepeat name (fun g => (g, g)) f with
  | none => rw [Option.map_none, Option.none_or, repeat?, Option.map_map]; rfl
  | some found => rfl

theorem find?_nodesOf {fields : List CompiledField}
    (h : ∀ f ∈ fields,
      f.repeatAt? name = (f.nodes.filterMap asRepeat?).find? (fun g => g.path.text == name)) :
    repeat? fields name = (repeatsOf fields).find? (fun g => g.path.text == name) := by
  induction fields with
  | nil => rfl
  | cons f rest ih =>
    obtain ⟨hf, hrest⟩ := List.forall_mem_cons.mp h
    rw [repeat?_cons, hf, ih hrest, repeatsOf, repeatsOf, nodesOf, List.filterMap_append,
      List.find?_append]

theorem find?_nodesOfRows {rows : List (List CompiledField)}
    (h : ∀ row ∈ rows,
      repeat? row name = (repeatsOf row).find? (fun g => g.path.text == name)) :
    (actOnRepeatInRows name (fun g => (g, g)) rows).map Prod.fst =
      ((rows.flatMap nodesOf).filterMap asRepeat?).find? (fun g => g.path.text == name) := by
  induction rows with
  | nil => rfl
  | cons row rest ih =>
    obtain ⟨hrow, hrest⟩ := List.forall_mem_cons.mp h
    rw [List.flatMap_cons, List.filterMap_append, List.find?_append, ← ih hrest, ← repeatsOf,
      ← hrow, repeat?, actOnRepeatInRows]
    cases actOnRepeatIn name (fun g => (g, g)) row with
    | none => rw [Option.map_none, Option.none_or, Option.map_map]; rfl
    | some found => rfl

theorem repeatAt?_eq_find? (f : CompiledField) :
    f.repeatAt? name = (f.nodes.filterMap asRepeat?).find? (fun g => g.path.text == name) := by
  induction f using CompiledField.induction with
  | leaf f => rw [repeatAt?, actOnRepeat, nodes]; rfl
  | group g ih =>
    rw [nodes_group, List.filterMap_cons_none rfl, ← repeatsOf, ← find?_nodesOf name ih, repeatAt?,
      actOnRepeat, Option.map_map]
    rfl
  | repeated g ih =>
    rw [nodes_repeated, List.filterMap_cons_some (f := asRepeat?) (b := g) rfl, repeatAt?,
      actOnRepeat]
    by_cases hg : g.path.text = name
    · rw [if_pos hg, List.find?_cons_of_pos (by simpa using hg)]
      rfl
    · rw [if_neg hg, List.find?_cons_of_neg (by simpa using hg),
        ← find?_nodesOfRows name (fun row hrow => find?_nodesOf name (ih row hrow)), Option.map_map]
      rfl

theorem repeat?_eq_find? (fields : List CompiledField) :
    repeat? fields name = (repeatsOf fields).find? (fun g => g.path.text == name) :=
  find?_nodesOf name (fun f _ => repeatAt?_eq_find? name f)

end Lookup

end CompiledField

namespace FieldPath

theorem texts_ne_of_diverges {p q : FieldPath} (h : p.Diverges q) :
    p.map Step.text ≠ q.map Step.text := by
  induction h with
  | key hne p q => exact fun heq => hne (List.cons.inj heq).1
  | index hne p q =>
    intro heq
    have hdigits := String.ofList_inj.mp (List.cons.inj heq).1
    exact hne (Text.digits_injective hdigits)
  | step s _ ih => exact fun heq => ih (List.cons.inj heq).2

/-- The second path leads away from the first one, or on from its end. -/
def LeadsElsewhere (p q : FieldPath) : Prop := p.Diverges q ∨ ∃ s rest, q = p ++ s :: rest

theorem LeadsElsewhere.texts_ne {p q : FieldPath} (h : p.LeadsElsewhere q) :
    p.map Step.text ≠ q.map Step.text := by
  rcases h with h | ⟨s, rest, rfl⟩
  · exact texts_ne_of_diverges h
  · intro heq
    have hlength := congrArg List.length heq
    simp at hlength

/-- No step holds a dot. -/
def DotFree (p : FieldPath) : Prop := ∀ s ∈ p, '.' ∉ s.text.toList

theorem DotFree.child {p : FieldPath} (h : p.DotFree) {name : String} (hname : '.' ∉ name.toList) :
    (p.child name).DotFree := by
  rw [DotFree, FieldPath.child, List.forall_mem_append, List.forall_mem_singleton]
  exact ⟨h, hname⟩

theorem DotFree.row {p : FieldPath} (h : p.DotFree) (i : Nat) : (p.row i).DotFree := by
  rw [DotFree, FieldPath.row, List.forall_mem_append, List.forall_mem_singleton]
  refine ⟨h, ?_⟩
  rw [Step.text, String.toList_ofList]
  exact Text.dot_not_mem_digits i

theorem LeadsElsewhere.text_ne {p q : FieldPath} (h : p.LeadsElsewhere q) (hp : p ≠ [])
    (hdots : p.DotFree) (hdots' : q.DotFree) : p.text ≠ q.text := by
  have hq : q ≠ [] := by
    rcases h with h | ⟨s, rest, rfl⟩
    · cases h with
      | key => exact List.cons_ne_nil _ _
      | index => exact List.cons_ne_nil _ _
      | step => exact List.cons_ne_nil _ _
    · exact List.append_ne_nil_of_right_ne_nil p (List.cons_ne_nil s rest)
  intro heq
  refine h.texts_ne (Text.joinWith_injective ?_ ?_ ?_ ?_ heq)
  · rwa [Ne, List.map_eq_nil_iff]
  · rwa [Ne, List.map_eq_nil_iff]
  · rwa [List.forall_mem_map]
  · rwa [List.forall_mem_map]

end FieldPath

namespace CompiledField

section Positions

variable {parent : FieldPath}

theorem Within.path_below {x : CompiledField} {fields : List CompiledField} (hx : Within x fields)
    (h : ∀ f ∈ fields, Addressed parent f) : ∃ s rest, x.path = parent ++ s :: rest := by
  obtain ⟨rest, hrest⟩ := hx.addressed h
  rw [hrest.path_eq, FieldPath.child, List.append_assoc]
  cases rest with
  | nil => exact ⟨.key x.name, [], rfl⟩
  | cons s rest => exact ⟨s, rest ++ [.key x.name], rfl⟩

theorem Addressed.row_node_path {g : RepeatGroup CompiledField} (h : Addressed parent (.repeated g))
    {i : Nat} {row : List CompiledField} (hi : g.rows[i]? = some row) {x : CompiledField}
    (hx : x ∈ nodesOf row) : ∃ rest, x.path = g.path ++ .index i :: rest := by
  obtain ⟨s, rest, hrest⟩ := (within_of_mem_nodesOf hx).path_below (h.repeated_rows hi)
  exact ⟨s :: rest, by rw [hrest, FieldPath.row, List.append_assoc]; rfl⟩

theorem Addressed.rows_node_path {g : RepeatGroup CompiledField}
    (h : Addressed parent (.repeated g))
    {x : CompiledField} (hx : x ∈ g.rows.flatMap nodesOf) :
    ∃ s rest, x.path = g.path ++ s :: rest := by
  obtain ⟨row, hrow, hx⟩ := List.mem_flatMap.mp hx
  obtain ⟨i, hi⟩ := List.getElem?_of_mem hrow
  exact ⟨.index i, h.row_node_path hi hx⟩

theorem Addressed.inside_path {c x : CompiledField} (h : Addressed parent c) (hx : x ∈ c.nodes) :
    x = c ∨ ∃ s rest, x.path = c.path ++ s :: rest := by
  cases c with
  | leaf f =>
    rw [nodes, List.mem_singleton] at hx
    exact Or.inl hx
  | group g =>
    rw [nodes_group, List.mem_cons] at hx
    exact hx.imp_right (fun hx => (within_of_mem_nodesOf hx).path_below h.group_fields)
  | repeated g =>
    rw [nodes_repeated, List.mem_cons] at hx
    exact hx.imp_right h.rows_node_path

theorem Addressed.node_path {c x : CompiledField} (h : Addressed parent c) (hx : x ∈ c.nodes) :
    ∃ rest, x.path = parent ++ .key c.name :: rest := by
  rcases h.inside_path hx with rfl | ⟨s, rest, hrest⟩
  · exact ⟨[], h.path_eq⟩
  · exact ⟨s :: rest, by rw [hrest, h.path_eq, FieldPath.child, List.append_assoc]; rfl⟩

/-- Different fields of a list lead to different places. -/
theorem nodesOf_lead_elsewhere {fields : List CompiledField} (h : ∀ f ∈ fields, Addressed parent f)
    (hnames : fields.Pairwise (fun f g => f.name ≠ g.name))
    (hinside : ∀ f ∈ fields, f.nodes.Pairwise (fun x y => x.path.LeadsElsewhere y.path)) :
    (nodesOf fields).Pairwise (fun x y => x.path.LeadsElsewhere y.path) := by
  rw [nodesOf_eq_flatMap, List.pairwise_flatMap]
  refine ⟨hinside, hnames.imp_of_mem (fun {f g} hf hg hne x hx y hy => Or.inl ?_)⟩
  obtain ⟨rest, hrest⟩ := (h f hf).node_path hx
  obtain ⟨rest', hrest'⟩ := (h g hg).node_path hy
  rw [hrest, hrest']
  exact (FieldPath.Diverges.key hne rest rest').append parent

/-- Rows of different numbers lead to different places. -/
theorem rows_lead_elsewhere {g : RepeatGroup CompiledField} (h : Addressed parent (.repeated g)) :
    g.rows.Pairwise (fun row row' =>
      ∀ x ∈ nodesOf row, ∀ y ∈ nodesOf row', x.path.LeadsElsewhere y.path) := by
  rw [List.pairwise_iff_getElem]
  intro i j hi hj hij x hx y hy
  obtain ⟨rest, hrest⟩ := h.row_node_path (List.getElem?_eq_getElem hi) hx
  obtain ⟨rest', hrest'⟩ := h.row_node_path (List.getElem?_eq_getElem hj) hy
  rw [hrest, hrest']
  exact Or.inl ((FieldPath.Diverges.index (Nat.ne_of_lt hij) rest rest').append g.path)

theorem Addressed.nodes_lead_elsewhere {c : CompiledField} (h : Addressed parent c)
    (hnames : DistinctInside c) : c.nodes.Pairwise (fun x y => x.path.LeadsElsewhere y.path) := by
  induction c using CompiledField.induction generalizing parent with
  | leaf f =>
    rw [nodes]
    exact List.pairwise_singleton _ _
  | group g ih =>
    obtain ⟨hpairwise, hinside⟩ := distinctNames_iff_inside.mp (hnames.1 g rfl)
    rw [nodes_group]
    refine List.pairwise_cons.mpr ⟨fun y hy => Or.inr ?_, ?_⟩
    · exact (within_of_mem_nodesOf hy).path_below h.group_fields
    · exact nodesOf_lead_elsewhere h.group_fields hpairwise
        (fun f hf => ih f hf (h.group_fields f hf) (hinside f hf))
  | repeated g ih =>
    rw [nodes_repeated]
    refine List.pairwise_cons.mpr ⟨fun y hy => Or.inr ?_, ?_⟩
    · exact h.rows_node_path hy
    · rw [List.pairwise_flatMap]
      refine ⟨fun row hrow => ?_, rows_lead_elsewhere h⟩
      obtain ⟨i, hi⟩ := List.getElem?_of_mem hrow
      obtain ⟨hpairwise, hinside⟩ := distinctNames_iff_inside.mp (hnames.2 g rfl row hrow)
      exact nodesOf_lead_elsewhere (h.repeated_rows hi) hpairwise
        (fun f hf => ih row hrow f hf (h.repeated_rows hi f hf) (hinside f hf))

end Positions

end CompiledField

namespace FieldSchema

/-- The names of a list tell its fields apart, and none of them holds a dot. -/
structure PlainNames (fields : List FieldSchema) : Prop where
  apart : NamesApart fields
  dot_free : ∀ f ∈ fields, '.' ∉ f.name.toList

theorem plainNames_iff {fields : List FieldSchema} :
    PlainNames fields ↔ NamesApart fields ∧ ∀ f ∈ fields, '.' ∉ f.name.toList :=
  ⟨fun h => ⟨h.apart, h.dot_free⟩, fun h => ⟨h.1, h.2⟩⟩

instance (fields : List FieldSchema) : Decidable (PlainNames fields) :=
  decidable_of_iff _ plainNames_iff.symm

theorem dotFree_of_within {x : CompiledField} {fields : List CompiledField} (hx : Within x fields)
    {parent : FieldPath} (hparent : parent.DotFree) (haddr : ∀ f ∈ fields, Addressed parent f)
    {schema : List FieldSchema} (hfields : List.Forall₂ Makes (sortByOrder schema) fields)
    (hnames : AllLists PlainNames schema) : x.path.DotFree := by
  have hchild {schema : List FieldSchema} {fields : List CompiledField} {parent : FieldPath}
      {c : CompiledField} (hparent : parent.DotFree) (haddr : Addressed parent c) (hc : c ∈ fields)
      (hfields : List.Forall₂ Makes (sortByOrder schema) fields)
      (hnames : AllLists PlainNames schema) :
      c.path.DotFree ∧ ∃ f ∈ schema, Makes f c := by
    obtain ⟨f, hf, hmakes⟩ := exists_related_of_mem hfields hc
    have hf := mem_sortByOrder.mp hf
    rw [haddr.path_eq, hmakes.name_eq]
    exact ⟨hparent.child ((hnames schema .own).dot_free f hf), f, hf, hmakes⟩
  induction hx generalizing parent schema with
  | here hmem => exact (hchild hparent (haddr x hmem) hmem hfields hnames).1
  | group hg _ ih =>
    obtain ⟨hpath, f, hf, hmakes⟩ := hchild hparent (haddr _ hg) hg hfields hnames
    cases hmakes with
    | group path hkind hnested hinside =>
      exact ih hpath (haddr _ hg).group_fields hinside
        (hnames.inside hf (nestedKey?_eq_fields.mpr hkind) hnested)
  | row hg hrow _ ih =>
    obtain ⟨hpath, f, hf, hmakes⟩ := hchild hparent (haddr _ hg) hg hfields hnames
    obtain ⟨i, hi⟩ := List.getElem?_of_mem hrow
    cases hmakes with
    | repeated path hkind hnested hinside =>
      exact ih (hpath.row i) ((haddr _ hg).repeated_rows hi) (hinside _ hrow)
        (hnames.inside hf (nestedKey?_eq_itemFields.mpr hkind) hnested)

end FieldSchema

namespace CompiledForm

/-- Full names tell the leaves and the repeat groups of a form apart, so looking one up finds the
only one of its name, and collecting leaves by name loses none of their values. -/
structure Unambiguous (form : CompiledForm) : Prop where
  nodup_leaves : (form.leaves.map LeafField.fullName).Nodup
  leaf?_iff : ∀ name leaf, form.leaf? name = some leaf ↔ leaf ∈ form.leaves ∧ leaf.fullName = name
  leaf?_none : ∀ name, (∀ leaf ∈ form.leaves, leaf.fullName ≠ name) → form.leaf? name = none
  nodup_repeats : ((repeatsOf form.fields).map (·.path.text)).Nodup
  repeat?_iff : ∀ name g,
    form.repeat? name = some g ↔ g ∈ repeatsOf form.fields ∧ g.path.text = name
  repeat?_none : ∀ name, (∀ g ∈ repeatsOf form.fields, g.path.text ≠ name) →
    form.repeat? name = none
  initialValues : ∀ leaf ∈ form.leaves,
    Dict.get? form.initialValues leaf.fullName = leaf.initialValue
  valuesFrom : ∀ nested, ∀ leaf ∈ form.leaves,
    Dict.get? (form.valuesFrom nested) leaf.fullName = (Json.obj nested).readAt leaf.path

theorem get?_collect_of_nodup {form : CompiledForm}
    (hnames : (form.leaves.map LeafField.fullName).Nodup) (value? : LeafField → Option Json)
    {leaf : LeafField} (hleaf : leaf ∈ form.leaves) :
    Dict.get? (form.collect value?) leaf.fullName = value? leaf := by
  apply Option.ext
  intro v
  rw [collect, Dict.get?_ofList_keyed hnames]
  constructor
  · rintro ⟨other, hother, hname, hv⟩
    rwa [← List.inj_on_of_nodup_map hnames hother hleaf hname]
  · intro hv
    exact ⟨leaf, hleaf, rfl, hv⟩

theorem nodup_selected {α : Type} {select : CompiledField → Option α} {path : α → FieldPath}
    {fields : List CompiledField}
    (h : (nodesOf fields).Pairwise (fun x y => x.path.text ≠ y.path.text))
    (hpath : ∀ f a, select f = some a → f.path = path a) :
    (((nodesOf fields).filterMap select).map (fun a => (path a).text)).Nodup := by
  rw [List.Nodup, List.pairwise_map, List.pairwise_filterMap]
  refine h.imp (fun {f g} hne a ha b hb => ?_)
  rwa [← hpath f a ha, ← hpath g b hb]

/-- When different fields have different full names, leaves and repeat groups alike, all that is
looked up by name is unambiguous. -/
theorem unambiguous_of_nodes {form : CompiledForm}
    (h : (nodesOf form.fields).Pairwise (fun x y => x.path.text ≠ y.path.text)) :
    form.Unambiguous := by
  have hleaves : (form.leaves.map LeafField.fullName).Nodup := by
    rw [leaves, ← filterMap_asLeaf?_nodesOf]
    exact nodup_selected h (fun f leaf hf => by rw [asLeaf?_eq_some.mp hf]; rfl)
  have hrepeats : ((repeatsOf form.fields).map (·.path.text)).Nodup :=
    nodup_selected h (fun f g hf => by rw [asRepeat?_eq_some.mp hf]; rfl)
  refine ⟨hleaves, fun _ _ => Dict.find?_eq_some_of_nodup hleaves, fun name hname => ?_, hrepeats,
    fun name g => ?_, fun name hname => ?_, fun leaf hleaf => ?_, fun nested leaf hleaf => ?_⟩
  · exact List.find?_eq_none.mpr (fun leaf hleaf => by simpa using hname leaf hleaf)
  · rw [repeat?, repeat?_eq_find?]
    exact Dict.find?_eq_some_of_nodup hrepeats
  · rw [repeat?, repeat?_eq_find?]
    exact List.find?_eq_none.mpr (fun g hg => by simpa using hname g hg)
  · exact get?_collect_of_nodup hleaves _ hleaf
  · exact get?_collect_of_nodup hleaves _ hleaf

theorem unambiguous_edited {schema : FormSchema} {seed : Option Properties} {form : CompiledForm}
    (h : compile schema seed = .ok form) (edits : List RowEdit)
    (hnames : AllLists PlainNames schema.fields) : (form.edited edits).Unambiguous := by
  have haddr := addressed_edited (addressed_of_compile h) edits
  have hmakes := makes_edited h edits
  have hdots : ∀ x ∈ nodesOf (form.edited edits).fields, x.path.DotFree := fun x hx =>
    dotFree_of_within (within_of_mem_nodesOf hx) (List.forall_mem_nil _) haddr hmakes hnames
  obtain ⟨hpairwise, hinside⟩ := distinctNames_iff_inside.mp
    (distinctNames_of_makes hmakes (fun fields hfields => (hnames fields hfields).apart))
  have helsewhere := nodesOf_lead_elsewhere haddr hpairwise
    (fun f hf => (haddr f hf).nodes_lead_elsewhere (hinside f hf))
  -- paths without dots are read back from their texts, so what leads elsewhere is called otherwise
  refine unambiguous_of_nodes (helsewhere.imp_of_mem (fun {x y} hx hy hne => ?_))
  obtain ⟨s, rest, hpath⟩ := (within_of_mem_nodesOf hx).path_below haddr
  exact hne.text_ne (hpath ▸ List.cons_ne_nil s rest) (hdots x hx) (hdots y hy)

/-- Two leaves of an edited form can only share a full name when some list of the schema has two
fields of one name or a name with a dot. Without such lists full names are unambiguous. -/
theorem fullNames_unambiguous {schema : FormSchema} {seed : Option Properties} {form : CompiledForm}
    (h : compile schema seed = .ok form) (edits : List RowEdit) :
    (∀ (i j : Nat) (leaf other : LeafField), i ≠ j → (form.edited edits).leaves[i]? = some leaf →
      (form.edited edits).leaves[j]? = some other → leaf.fullName = other.fullName →
      ∃ fields, ListIn schema.fields fields ∧
        (¬NamesApart fields ∨ ∃ f ∈ fields, '.' ∈ f.name.toList)) ∧
    (AllLists PlainNames schema.fields → (form.edited edits).Unambiguous) := by
  refine ⟨fun i j leaf other hij hi hj hname => ?_, unambiguous_edited h edits⟩
  by_contra hnone
  push Not at hnone
  have hplain : AllLists PlainNames schema.fields := fun fields hfields =>
    plainNames_iff.mpr (hnone fields hfields)
  have hnodup := (unambiguous_edited h edits hplain).nodup_leaves
  refine hij ((List.getElem?_inj ?_ hnodup).mp ?_)
  · rw [List.length_map]
    exact (List.getElem?_eq_some_iff.mp hi).1
  · rw [List.getElem?_map, List.getElem?_map, hi, hj, Option.map_some, Option.map_some, hname]

end CompiledForm

/-- A field with a dot in its name, and a group whose field has the same full name. -/
def dottedSchema : FormSchema where
  fields := [{ name := "a.b" },
    { name := "a"
      kind := .object
      properties := some [("fields", .arr [.obj [("name", .str "b")]])] }]

def compiledDotted : Except SchemaError CompiledForm := CompiledForm.compile dottedSchema none

def dottedForm : CompiledForm := compiledDotted.toOption.getD ⟨[], "", none⟩

theorem order_unambiguous_and_dotted_not :
    compiledOrder = .ok orderForm ∧ AllLists PlainNames [orderItems] ∧
      (orderForm.edited orderEdits).Unambiguous ∧
      compiledDotted = .ok dottedForm ∧
      dottedForm.leaves.map LeafField.fullName = ["a.b", "a.b"] ∧
      ∃ fields, ListIn dottedSchema.fields fields ∧
        (¬NamesApart fields ∨ ∃ f ∈ fields, '.' ∈ f.name.toList) := by
  have h : compiledOrder = .ok orderForm := rfl
  have hnames : AllLists PlainNames [orderItems] := by decide +kernel
  have hdotted : compiledDotted = .ok dottedForm := rfl
  refine ⟨h, hnames, (CompiledForm.fullNames_unambiguous h orderEdits).2 hnames, hdotted, rfl, ?_⟩
  exact (CompiledForm.fullNames_unambiguous hdotted []).1 0 1 _ _ (by decide) rfl rfl rfl

end UiSchema
