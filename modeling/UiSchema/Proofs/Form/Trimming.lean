import UiSchema.Proofs.Form.Assembly
import UiSchema.Proofs.Form.Construction
import UiSchema.Proofs.Json.Arrangement

/-!
# What a form keeps of a nested object

A form that was compiled with a nested object has a leaf wherever the object can have a value, and
its rows are those of the object. What is gathered from the leaves is the object without all that
holds no value of a leaf: keys that name no field, values of the wrong shape, and objects and lists
that end up empty. Rows in front of one that is kept are not left out of their list; null stands in
their place.
-/

namespace UiSchema

set_option autoImplicit false

open CompiledField FieldSchema

namespace FieldSchema

/-- The field of a name in a list of fields. -/
def named? (fields : List FieldSchema) (name : String) : Option FieldSchema :=
  fields.find? (fun f => f.name == name)

mutual

/-- What the leaves of a field keep of a value. -/
def trim (f : FieldSchema) : Json → Option Json
  | .obj d =>
    match f.nestedKey? with
    | none => some (.obj d)
    | some .fields => Json.filledObject (trimEntries (f.heldList?.getD []) d)
    | some .itemFields => none
  | .arr rows =>
    match f.nestedKey? with
    | none => some (.arr rows)
    | some .fields => none
    | some .itemFields => Json.filledList (Json.padded (trimRows (f.heldList?.getD []) rows))
  | v => if f.nestedKey?.isNone then some v else none

def trimEntries (fields : List FieldSchema) : List (String × Json) → Dict Json
  | [] => []
  | (k, v) :: rest =>
    (((named? fields k).bind (fun f => trim f v)).map (fun w => (k, w))).toList ++
      trimEntries fields rest

def trimRows (fields : List FieldSchema) : List Json → List (Option Json)
  | [] => []
  | .obj d :: rest => Json.filledObject (trimEntries fields d) :: trimRows fields rest
  | _ :: rest => none :: trimRows fields rest

end

/-- What the leaves of a row keep of a value. -/
def trimRow (fields : List FieldSchema) (row : Json) : Option Json :=
  row.fields?.bind (fun d => Json.filledObject (trimEntries fields d))

def trimEntry (fields : List FieldSchema) (entry : String × Json) : Option (String × Json) :=
  ((named? fields entry.1).bind (fun f => f.trim entry.2)).map (fun w => (entry.1, w))

section Equations

variable {f : FieldSchema} {fields nested : List FieldSchema}

theorem trim_of_leaf (h : f.nestedKey? = none) (v : Json) : f.trim v = some v := by
  cases v <;> simp [trim, h]

theorem heldList?_of_key {key : NestedKey} (hkey : f.nestedKey? = some key)
    (hnested : f.nestedFields key "" = .ok nested) : f.heldList? = some nested :=
  heldList?_eq_some.mpr ⟨key, hkey, hnested⟩

theorem trim_of_group (hkey : f.nestedKey? = some .fields)
    (hnested : f.nestedFields .fields "" = .ok nested) (v : Json) :
    f.trim v = trimRow nested v := by
  cases v <;> simp [trim, trimRow, Json.fields?, hkey, heldList?_of_key hkey hnested]

theorem trimRows_eq_map (rows : List Json) : trimRows fields rows = rows.map (trimRow fields) := by
  induction rows with
  | nil => rfl
  | cons row rest ih =>
    rw [List.map_cons, ← ih]
    cases row <;> rfl

theorem trim_of_list (hkey : f.nestedKey? = some .itemFields)
    (hnested : f.nestedFields .itemFields "" = .ok nested) (v : Json) :
    f.trim v =
      v.items?.bind (fun rows => Json.filledList (Json.padded (rows.map (trimRow nested)))) := by
  cases v <;>
    simp [trim, Json.items?, hkey, heldList?_of_key hkey hnested, trimRows_eq_map]

theorem trimEntries_eq_filterMap (fields : List FieldSchema) (d : Dict Json) :
    trimEntries fields d = d.filterMap (trimEntry fields) := by
  induction d with
  | nil => rfl
  | cons entry rest ih =>
    have hcons : trimEntries fields (entry :: rest) =
        (trimEntry fields entry).toList ++ trimEntries fields rest := rfl
    rw [hcons, ih, List.filterMap_cons]
    cases trimEntry fields entry <;> rfl

theorem named?_eq_some (h : NamesApart fields) {name : String} :
    named? fields name = some f ↔ f ∈ fields ∧ f.name = name :=
  Dict.find?_eq_some_of_nodup (List.pairwise_map.mpr h)

theorem named?_sortByOrder (h : NamesApart fields) (name : String) :
    named? (sortByOrder fields) name = named? fields name := by
  refine Option.ext (fun f => ?_)
  rw [named?_eq_some (h.perm (sortByOrder_perm fields)), named?_eq_some h, mem_sortByOrder]

theorem trimRow_sortByOrder (h : NamesApart fields) (row : Json) :
    trimRow (sortByOrder fields) row = trimRow fields row := by
  have hentry : trimEntry (sortByOrder fields) = trimEntry fields := by
    funext entry
    rw [trimEntry, trimEntry, named?_sortByOrder h]
  simp only [trimRow, trimEntries_eq_filterMap, hentry]

theorem AllLists.sortByOrder (h : AllLists NamesApart fields) :
    AllLists NamesApart (sortByOrder fields) := by
  intro l hl
  rcases listIn_iff.mp hl with rfl | ⟨f, hf, key, nested, hkey, hnested, hin⟩
  · exact (h fields .own).perm (sortByOrder_perm fields)
  · exact h.inside (mem_sortByOrder.mp hf) hkey hnested l hin

theorem mem_trimEntries (h : NamesApart fields) {d : Dict Json} {k : String} {w : Json} :
    (k, w) ∈ trimEntries fields d ↔
      ∃ v, (k, v) ∈ d ∧ ∃ f ∈ fields, f.name = k ∧ f.trim v = some w := by
  rw [trimEntries_eq_filterMap, List.mem_filterMap]
  constructor
  · rintro ⟨⟨k', v⟩, hmem, hentry⟩
    obtain ⟨w', hw, heq⟩ := Option.map_eq_some_iff.mp hentry
    cases heq
    obtain ⟨f, hf, htrim⟩ := Option.bind_eq_some_iff.mp hw
    obtain ⟨hf, hname⟩ := (named?_eq_some h).mp hf
    exact ⟨v, hmem, f, hf, hname, htrim⟩
  · rintro ⟨v, hmem, f, hf, hname, htrim⟩
    refine ⟨(k, v), hmem, ?_⟩
    rw [trimEntry, (named?_eq_some h).mpr ⟨hf, hname⟩, Option.bind_some, htrim, Option.map_some]

theorem ascending_trimEntries (fields : List FieldSchema) {d : Dict Json} (h : Dict.Ascending d) :
    Dict.Ascending (trimEntries fields d) := by
  rw [trimEntries_eq_filterMap, Dict.Ascending, List.pairwise_filterMap]
  refine h.imp ?_
  intro a b hlt entry hentry entry' hentry'
  obtain ⟨_, _, rfl⟩ := Option.map_eq_some_iff.mp hentry
  obtain ⟨_, _, rfl⟩ := Option.map_eq_some_iff.mp hentry'
  exact hlt

end Equations

section Compiling

variable {root : Json} {value? : LeafField → Option Json}

theorem readAt_below_none {root : Json} {p rest : FieldPath} {name : String}
    (h : (root.readAt p).bind Json.fields? = none) :
    root.readAt (p ++ .key name :: rest) = none := by
  rw [Json.readAt_append]
  cases hread : root.readAt p with
  | none => rfl
  | some v =>
    rw [hread, Option.bind_some] at h
    cases v <;> first | rfl | cases h

/-- Where there is no object, there is no value for the fields of a group or a row. -/
theorem gatherRow_eq_none_of_read {fields : List CompiledField} {parent : FieldPath}
    (haddr : ∀ c ∈ fields, Addressed parent c)
    (hreads : ∀ leaf ∈ leavesOf fields, value? leaf = root.readAt leaf.path)
    (h : (root.readAt parent).bind Json.fields? = none) : gatherRow value? fields = none := by
  refine (gatherRow_eq_none_iff value? fields).mpr (fun leaf hleaf => ?_)
  obtain ⟨c, hc, hmem⟩ := mem_leavesOf.mp hleaf
  obtain ⟨rest, hpath⟩ := (haddr c hc).leaf_path hmem
  rw [hreads leaf hleaf, hpath]
  exact readAt_below_none h

/-- Where there is no list, there is no value for any row. -/
theorem gatherRows_eq_none_of_read {rows : List (List CompiledField)} {path : FieldPath}
    (haddr : ∀ (i : Nat) (row : List CompiledField), rows[i]? = some row →
      ∀ c ∈ row, Addressed (path.row i) c)
    (hreads : ∀ row ∈ rows, ∀ leaf ∈ leavesOf row, value? leaf = root.readAt leaf.path)
    (h : (root.readAt path).bind Json.items? = none) :
    Json.filledList (Json.padded (gatherRows value? rows)) = none := by
  rw [Json.filledList_eq_none_iff, Json.padded_eq_nil_iff, gatherRows_eq_map, List.forall_mem_map]
  intro row hrow
  obtain ⟨i, hi⟩ := List.getElem?_of_mem hrow
  refine gatherRow_eq_none_of_read (haddr i row hi) (hreads row hrow) ?_
  rw [Json.readAt_row]
  cases hread : root.readAt path with
  | none => rfl
  | some v =>
    rw [hread] at h
    cases v <;> first | rfl | cases h

/-- When every field has what is kept of the value under its name, all of them together have what is
kept of the object. -/
theorem gatherRow_of_fields {fields : List FieldSchema} (hnames : NamesApart fields)
    {d : Dict Json} (hd : Dict.Ascending d) {result : List CompiledField}
    (h : List.Forall₂ (fun f c => c.name = f.name ∧
      c.gather value? = (Dict.get? d f.name).bind f.trim) (sortByOrder fields) result) :
    gatherRow value? result = Json.filledObject (trimEntries fields d) := by
  have hdistinct : result.Pairwise (fun c c' => c.name ≠ c'.name) :=
    hnames.pairwise_names (fun _ _ hc => hc.1) h
  have hkeys := nodup_keys_gatherEntries value? hdistinct
  have htrimmed := ascending_trimEntries fields hd
  rw [gatherRow]
  congr 1
  -- the fields stand in display order and the keys of the object in their own, so they are compared
  -- by what is found under each key
  refine Dict.ext_get? (Dict.ascending_ofList _) htrimmed (fun k => Option.ext (fun w => ?_))
  rw [Dict.get?_ofList_of_nodup hkeys, Dict.get?_eq_some_iff hkeys,
    Dict.get?_eq_some_iff htrimmed.nodup_keys, mem_gatherEntries, mem_trimEntries hnames]
  constructor
  · rintro ⟨c, hc, rfl, hw⟩
    obtain ⟨f, hf, hname, hvalue⟩ := exists_related_of_mem h hc
    rw [hvalue] at hw
    obtain ⟨v, hv, htrim⟩ := Option.bind_eq_some_iff.mp hw
    exact ⟨v, hname ▸ Dict.mem_of_get? hv, f, mem_sortByOrder.mp hf, hname.symm, htrim⟩
  · rintro ⟨v, hv, f, hf, rfl, htrim⟩
    obtain ⟨c, hc, hname, hvalue⟩ := exists_related_of_mem h.flip (mem_sortByOrder.mpr hf)
    refine ⟨c, hc, hname, ?_⟩
    rw [hvalue, Dict.get?_of_mem hd.nodup_keys hv]
    exact htrim

/-- Where a list is compiled with the object that stands at its path, it gathers what is kept of
the object. -/
def GathersTrimmed (root : Json) (value? : LeafField → Option Json) (compile : Compiler) : Prop :=
  ∀ ⦃fields parent d result⦄, AllLists NamesApart fields → (Json.obj d).Canonical →
    root.readAt parent = some (.obj d) → compile fields parent (.values (some d)) = .ok result →
    (∀ c ∈ result, Addressed parent c) →
    (∀ leaf ∈ leavesOf result, value? leaf = root.readAt leaf.path) →
    gatherRow value? result = Json.filledObject (trimEntries fields d)

section Levels

variable {compile : Compiler} (h : GathersTrimmed root value? compile)
variable {f : FieldSchema} {nested : List FieldSchema}
include h

theorem gatherRow_of_item {path : FieldPath} (hnames : AllLists NamesApart nested) {item : Json}
    (hitem : item.Canonical) (hread : root.readAt path = some item) {row : List CompiledField}
    (hrow : compile (sortByOrder nested) path (.ofRow item) = .ok row)
    (haddr : ∀ c ∈ row, Addressed path c)
    (hreads : ∀ leaf ∈ leavesOf row, value? leaf = root.readAt leaf.path) :
    gatherRow value? row = trimRow nested item := by
  cases item with
  | obj d =>
    rw [← trimRow_sortByOrder (hnames nested .own)]
    exact h hnames.sortByOrder hitem hread hrow haddr hreads
  | _ => exact gatherRow_eq_none_of_read haddr hreads (by rw [hread]; rfl)

/-- The rows gather what is kept of the items they are compiled with. -/
theorem gatherRows_of_items {path : FieldPath} (hnames : AllLists NamesApart nested)
    {items : List Json} (hitems : ∀ item ∈ items, item.Canonical)
    (hread : root.readAt path = some (.arr items)) {rows : List (List CompiledField)}
    (hrows : compileRows compile (sortByOrder nested) path 0 items = .ok rows)
    (haddr : ∀ (i : Nat) (row : List CompiledField), rows[i]? = some row →
      ∀ c ∈ row, Addressed (path.row i) c)
    (hreads : ∀ row ∈ rows, ∀ leaf ∈ leavesOf row, value? leaf = root.readAt leaf.path) :
    gatherRows value? rows = items.map (trimRow nested) := by
  rw [gatherRows_eq_map]
  have hlength : rows.length = items.length := length_of_compileRows hrows
  refine List.ext_getElem? (fun i => ?_)
  rw [List.getElem?_map, List.getElem?_map]
  cases hrow : rows[i]? with
  | none =>
    have hge : items.length ≤ i := by
      rw [← hlength]
      exact List.getElem?_eq_none_iff.mp hrow
    rw [List.getElem?_eq_none hge]
    rfl
  | some row =>
    obtain ⟨item, hitem, hcompile⟩ := getElem?_of_compileRows hrows hrow
    rw [Nat.zero_add] at hcompile
    have hat : root.readAt (path.row i) = some item := by
      rw [Json.readAt_row, hread]
      exact hitem
    rw [hitem, Option.map_some, Option.map_some, gatherRow_of_item h hnames
      (hitems item (List.mem_of_getElem? hitem)) hat hcompile (haddr i row hrow)
      (hreads row (List.mem_of_getElem? hrow))]

/-- A field gathers what is kept of the value that the object has for it. -/
theorem gather_of_compiles {fields : List FieldSchema} (hf : f ∈ fields)
    (hnames : AllLists NamesApart fields) {d : Dict Json} (hd : (Json.obj d).Canonical)
    {parent : FieldPath} (hread : root.readAt parent = some (.obj d)) {c : CompiledField}
    (hc : Compiles compile parent (.values (some d)) f c) (haddr : Addressed parent c)
    (hreads : ∀ leaf ∈ c.leaves, value? leaf = root.readAt leaf.path) :
    c.gather value? = (Dict.get? d f.name).bind f.trim := by
  have hat : root.readAt (parent.child f.name) = Dict.get? d f.name := by
    rw [Json.readAt_child, hread]
    rfl
  have hpart {v : Json} (hv : Dict.get? d f.name = some v) : v.Canonical :=
    hd.part ⟨f.name, Dict.mem_of_get? hv⟩
  cases hc with
  | leaf hobject harray =>
    have hleaf := nestedKey?_eq_none.mpr ⟨hobject, harray⟩
    rw [gather, hreads _ (mem_leaves_leaf.mpr rfl), hat]
    cases Dict.get? d f.name with
    | none => rfl
    | some v => rw [Option.bind_some, trim_of_leaf hleaf]
  | @group nested fields' hkind hnested hfields =>
    have hkey := nestedKey?_eq_fields.mpr hkind
    have hnested := nestedFields_path hnested ""
    have hreads : ∀ leaf ∈ leavesOf fields', value? leaf = root.readAt leaf.path :=
      fun leaf hleaf => hreads leaf (mem_leaves_group.mpr hleaf)
    have haddr := haddr.group_fields
    simp only [Seed.nested, Seed.get?] at hfields
    rw [gather_group]
    cases hget : Dict.get? d f.name with
    | none =>
      rw [hget] at hat
      exact gatherRow_eq_none_of_read haddr hreads (by rw [hat]; rfl)
    | some v =>
      rw [hget] at hat hfields
      rw [Option.bind_some, trim_of_group hkey hnested]
      cases v with
      | obj inner => exact h (hnames.inside hf hkey hnested) (hpart hget) hat hfields haddr hreads
      | _ => exact gatherRow_eq_none_of_read haddr hreads (by rw [hat]; rfl)
  | @repeated nested rows hkind hnested hrows =>
    have hkey := nestedKey?_eq_itemFields.mpr hkind
    have hnested := nestedFields_path hnested ""
    have hreads : ∀ row ∈ rows, ∀ leaf ∈ leavesOf row, value? leaf = root.readAt leaf.path :=
      fun row hrow leaf hleaf => hreads leaf (mem_leaves_repeated.mpr ⟨row, hrow, hleaf⟩)
    have haddr : ∀ (i : Nat) (row : List CompiledField), rows[i]? = some row →
        ∀ c ∈ row, Addressed ((parent.child f.name).row i) c := fun i row => haddr.repeated_rows
    simp only [Seed.initial?, Seed.get?] at hrows
    rw [gather_repeated]
    cases hget : Dict.get? d f.name with
    | none =>
      rw [hget] at hat
      exact gatherRows_eq_none_of_read haddr hreads (by rw [hat]; rfl)
    | some v =>
      rw [hget] at hat hrows
      rw [Option.bind_some, trim_of_list hkey hnested]
      cases v with
      | arr items =>
        have hitems : ∀ item ∈ items, item.Canonical :=
          fun item hitem => (hpart hget).part hitem
        rw [gatherRows_of_items h (hnames.inside hf hkey hnested) hitems hat hrows haddr hreads]
        rfl
      | _ => exact gatherRows_eq_none_of_read haddr hreads (by rw [hat]; rfl)

theorem gathersTrimmed_compileLevel : GathersTrimmed root value? (compileLevel compile) := by
  intro fields parent d result hnames hd hread hresult haddr hreads
  have hasc : Dict.Ascending d := by
    rw [Json.Canonical] at hd
    exact hd.1
  have hall := forall₂_of_compileAll hresult
  refine gatherRow_of_fields (hnames fields .own) hasc ?_
  refine List.forall₂_iff_zip.mpr ⟨hall.length_eq, fun {f c} hmem => ?_⟩
  obtain ⟨hf, hc⟩ := List.of_mem_zip hmem
  have hcompiles := compileField_eq_ok.mp (List.forall₂_zip hall hmem)
  refine ⟨hcompiles.name_eq, ?_⟩
  exact gather_of_compiles h (mem_sortByOrder.mp hf) hnames hd hread hcompiles (haddr c hc)
    (fun leaf hleaf => hreads leaf (mem_leavesOf.mpr ⟨c, hc, hleaf⟩))

end Levels

theorem gathersTrimmed_compileWithin (root : Json) (value? : LeafField → Option Json)
    (depth : Nat) : GathersTrimmed root value? (compileWithin depth) := by
  refine compileWithin_of_level ?_ (fun compile h => gathersTrimmed_compileLevel h) depth
  intro fields parent d result _ _ _ hresult
  exact absurd hresult refuseAll_ne_ok

end Compiling

end FieldSchema

namespace CompiledForm

/-- A submission with the values that a nested object has at the leaves nests to what the form keeps
of the object. -/
theorem toNested_eq_trim {schema : FormSchema} {n : Properties} {form : CompiledForm}
    (h : compile schema (some n) = .ok form) (hnames : AllLists NamesApart schema.fields)
    (hn : (Json.obj n).Canonical) {values : Submission}
    (hvalues : ∀ leaf ∈ form.leaves,
      Dict.get? values leaf.fullName = (Json.obj n).readAt leaf.path) :
    form.toNested values = .obj (trimEntries schema.fields n) := by
  have haddr := addressed_of_compile h
  have hdistinct := distinctNames_of_makes (makes_of_compile (fields_of_compile h)) hnames
  rw [toNested_eq_gather haddr hdistinct, Json.obj.injEq, ← Json.filledObject_inj]
  exact gathersTrimmed_compileWithin (.obj n) _ _ hnames hn rfl (fields_of_compile h) haddr hvalues

end CompiledForm

end UiSchema
