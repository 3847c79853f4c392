import UiSchema.Proofs.Form.FullNames
import UiSchema.Proofs.Form.Trimming

/-!
# Nested objects that survive the form

A nested object is read into a submission and nested again by the form that was compiled with it.
What comes out is what the form keeps of the object. For an object that conforms to the schema this
is the object itself exactly when nothing in it is empty where the schema has fields, and when
leaves that share a full name, as they can with dots in names, share their values too.
-/

namespace UiSchema

set_option autoImplicit false

open CompiledField FieldSchema

theorem Json.padded_map_some (items : List Json) : padded (items.map some) = items := by
  induction items with
  | nil => rfl
  | cons v rest ih => rw [List.map_cons, padded_cons_some, ih]

/-- Without null among them and with none left out, padded items were all there. -/
theorem Json.eq_map_some_of_padded {found : List (Option Json)} {items : List Json}
    (h : padded found = items) (hlength : found.length = items.length)
    (hnull : ∀ v ∈ items, v ≠ .null) : found = items.map some := by
  induction found generalizing items with
  | nil => rw [List.length_eq_zero_iff.mp hlength.symm]; rfl
  | cons first rest ih =>
    cases items with
    | nil => simp at hlength
    | cons v items =>
      obtain ⟨hv, hnull⟩ := List.forall_mem_cons.mp hnull
      replace hlength : rest.length = items.length := Nat.succ.inj hlength
      cases first with
      | some w =>
        rw [padded_cons_some, List.cons.injEq] at h
        rw [List.map_cons, h.1, ih h.2 hlength hnull]
      | none =>
        -- a row that is not there would be null, or be left out
        by_cases hrest : padded rest = []
        · rw [padded, hrest] at h
          simp at h
        · rw [padded_cons_none hrest, List.cons.injEq] at h
          exact absurd h.1.symm hv

theorem forall_of_filterMap_eq_self {α : Type} {f : α → Option α} {xs : List α}
    (h : xs.filterMap f = xs) : ∀ x ∈ xs, f x = some x := by
  induction xs with
  | nil => exact List.forall_mem_nil _
  | cons x rest ih =>
    rw [List.filterMap_cons] at h
    cases hx : f x with
    | none =>
      rw [hx] at h
      have hle := List.length_filterMap_le f rest
      simp only at h
      rw [h, List.length_cons] at hle
      omega
    | some y =>
      rw [hx] at h
      obtain ⟨rfl, hrest⟩ := List.cons.inj h
      exact List.forall_mem_cons.mpr ⟨hx, ih hrest⟩

namespace FieldSchema

/-- The value fits the field. The objects of groups, the lists and the rows in it have at least so
many entries each. -/
inductive Fits (least : Nat) : FieldSchema → Json → Prop
  | leaf {f : FieldSchema} (v : Json) : f.nestedKey? = none → Fits least f v
  | group {f : FieldSchema} {nested : List FieldSchema} {d : Dict Json} :
      f.nestedKey? = some .fields → f.nestedFields .fields "" = .ok nested → least ≤ d.length →
      (∀ e ∈ d, ∃ g ∈ nested, g.name = e.1) →
      (∀ e ∈ d, ∀ g ∈ nested, g.name = e.1 → Fits least g e.2) → Fits least f (.obj d)
  | list {f : FieldSchema} {nested : List FieldSchema} {rows : List (Dict Json)} :
      f.nestedKey? = some .itemFields → f.nestedFields .itemFields "" = .ok nested →
      least ≤ rows.length → (∀ d ∈ rows, least ≤ d.length) →
      (∀ d ∈ rows, ∀ e ∈ d, ∃ g ∈ nested, g.name = e.1) →
      (∀ d ∈ rows, ∀ e ∈ d, ∀ g ∈ nested, g.name = e.1 → Fits least g e.2) →
      Fits least f (.arr (rows.map .obj))

/-- Every key names a field of the list, and its value fits the field. -/
def FitsEntries (least : Nat) (fields : List FieldSchema) (d : Dict Json) : Prop :=
  (∀ e ∈ d, ∃ f ∈ fields, f.name = e.1) ∧ ∀ e ∈ d, ∀ f ∈ fields, f.name = e.1 → Fits least f e.2

/-- The object conforms to the fields: its keys name fields, with objects that conform for groups
and lists of such objects for repetitions. -/
def Conforms (fields : List FieldSchema) (d : Dict Json) : Prop := FitsEntries 0 fields d

/-- The object conforms to the fields, and nothing in it is empty that has fields of its own. -/
def ConformsFilled (fields : List FieldSchema) (d : Dict Json) : Prop := FitsEntries 1 fields d

theorem fitsEntries_nil (least : Nat) (fields : List FieldSchema) : FitsEntries least fields [] :=
  ⟨List.forall_mem_nil _, List.forall_mem_nil _⟩

theorem FitsEntries.cons {least : Nat} {fields : List FieldSchema} (hnames : NamesApart fields)
    {f : FieldSchema} (hf : f ∈ fields) {v : Json} (hv : Fits least f v) {d : Dict Json}
    (h : FitsEntries least fields d) : FitsEntries least fields ((f.name, v) :: d) := by
  refine ⟨List.forall_mem_cons.mpr ⟨⟨f, hf, rfl⟩, h.1⟩, List.forall_mem_cons.mpr ⟨?_, h.2⟩⟩
  intro g hg hname
  rwa [hnames.eq_of_name hg hf hname]

theorem Fits.of_entries {least : Nat} {f : FieldSchema} {nested : List FieldSchema}
    {d : Dict Json} (hkey : f.nestedKey? = some .fields)
    (hnested : f.nestedFields .fields "" = .ok nested) (hleast : least ≤ d.length)
    (h : FitsEntries least nested d) : Fits least f (.obj d) :=
  .group hkey hnested hleast h.1 h.2

theorem Fits.of_rows {least : Nat} {f : FieldSchema} {nested : List FieldSchema}
    {rows : List (Dict Json)} (hkey : f.nestedKey? = some .itemFields)
    (hnested : f.nestedFields .itemFields "" = .ok nested) (hleast : least ≤ rows.length)
    (h : ∀ d ∈ rows, least ≤ d.length ∧ FitsEntries least nested d) :
    Fits least f (.arr (rows.map .obj)) :=
  .list hkey hnested hleast (fun d hd => (h d hd).1) (fun d hd => (h d hd).2.1)
    (fun d hd => (h d hd).2.2)

section Fixed

variable {fields nested : List FieldSchema} {f : FieldSchema}

theorem trimEntries_eq_self_iff (hnames : NamesApart fields) {d : Dict Json} :
    trimEntries fields d = d ↔ (∀ e ∈ d, ∃ f ∈ fields, f.name = e.1) ∧
      ∀ e ∈ d, ∀ f ∈ fields, f.name = e.1 → f.trim e.2 = some e.2 := by
  rw [trimEntries_eq_filterMap]
  constructor
  · intro h
    have hentry : ∀ e ∈ d, ∃ f ∈ fields, f.name = e.1 ∧ f.trim e.2 = some e.2 := by
      intro e he
      obtain ⟨w, hw, heq⟩ := Option.map_eq_some_iff.mp (forall_of_filterMap_eq_self h e he)
      obtain ⟨f, hf, htrim⟩ := Option.bind_eq_some_iff.mp hw
      obtain ⟨hf, hname⟩ := (named?_eq_some hnames).mp hf
      exact ⟨f, hf, hname, by rw [htrim, ← heq]⟩
    refine ⟨fun e he => ?_, fun e he f hf hname => ?_⟩
    · obtain ⟨f, hf, hname, _⟩ := hentry e he
      exact ⟨f, hf, hname⟩
    · obtain ⟨g, hg, hname', htrim⟩ := hentry e he
      rwa [hnames.eq_of_name hf hg (hname.trans hname'.symm)]
  · rintro ⟨hkeys, hvalues⟩
    have hentry : ∀ e ∈ d, trimEntry fields e = some e := by
      intro e he
      obtain ⟨f, hf, hname⟩ := hkeys e he
      rw [trimEntry, (named?_eq_some hnames).mpr ⟨hf, hname⟩, Option.bind_some,
        hvalues e he f hf hname, Option.map_some]
    rw [List.filterMap_congr hentry, List.filterMap_some]

theorem trimRow_eq_self_iff {d : Dict Json} :
    trimRow fields (.obj d) = some (.obj d) ↔ trimEntries fields d = d ∧ 1 ≤ d.length :=
  Json.filledObject_eq_some_iff

/-- The rows of a list stay as they are exactly when each of them does. -/
theorem filledList_rows_eq_self_iff {rows : List (Dict Json)} :
    Json.filledList (Json.padded ((rows.map Json.obj).map (trimRow fields))) =
        some (.arr (rows.map Json.obj)) ↔
      1 ≤ rows.length ∧ ∀ d ∈ rows, trimRow fields (.obj d) = some (.obj d) := by
  rw [Json.filledList_eq_some_iff, List.length_map, and_comm]
  refine and_congr_right (fun _ => ?_)
  constructor
  · intro h
    have hall := Json.eq_map_some_of_padded h (by simp) (by simp)
    rw [List.map_inj_left, List.forall_mem_map] at hall
    exact hall
  · intro h
    have hall : (rows.map Json.obj).map (trimRow fields) = (rows.map Json.obj).map some := by
      rw [List.map_inj_left, List.forall_mem_map]
      exact h
    rw [hall, Json.padded_map_some]

theorem trim_of_fits {v : Json} (h : Fits 1 f v) (hf : f ∈ fields)
    (hnames : AllLists NamesApart fields) : f.trim v = some v := by
  induction h generalizing fields with
  | leaf v hleaf => exact trim_of_leaf hleaf v
  | group hkey hnested hleast hkeys _ ih =>
    have hinside := hnames.inside hf hkey hnested
    rw [trim_of_group hkey hnested]
    exact trimRow_eq_self_iff.mpr ⟨(trimEntries_eq_self_iff (hinside _ .own)).mpr
      ⟨hkeys, fun e he g hg hname => ih e he g hg hname hg hinside⟩, hleast⟩
  | list hkey hnested hleast hrows hkeys _ ih =>
    have hinside := hnames.inside hf hkey hnested
    rw [trim_of_list hkey hnested]
    refine filledList_rows_eq_self_iff.mpr ⟨hleast, fun d hd => ?_⟩
    exact trimRow_eq_self_iff.mpr ⟨(trimEntries_eq_self_iff (hinside _ .own)).mpr
      ⟨hkeys d hd, fun e he g hg hname => ih d hd e he g hg hname hg hinside⟩, hrows d hd⟩

theorem fits_of_trim {v : Json} (h : Fits 0 f v) (hf : f ∈ fields)
    (hnames : AllLists NamesApart fields) (htrim : f.trim v = some v) : Fits 1 f v := by
  induction h generalizing fields with
  | leaf v hleaf => exact .leaf v hleaf
  | group hkey hnested _ hkeys _ ih =>
    have hinside := hnames.inside hf hkey hnested
    rw [trim_of_group hkey hnested] at htrim
    obtain ⟨hself, hlength⟩ := trimRow_eq_self_iff.mp htrim
    obtain ⟨_, hvalues⟩ := (trimEntries_eq_self_iff (hinside _ .own)).mp hself
    exact .group hkey hnested hlength hkeys
      (fun e he g hg hname => ih e he g hg hname hg hinside (hvalues e he g hg hname))
  | list hkey hnested _ _ hkeys _ ih =>
    have hinside := hnames.inside hf hkey hnested
    rw [trim_of_list hkey hnested] at htrim
    obtain ⟨hlength, hrows⟩ := filledList_rows_eq_self_iff.mp htrim
    refine .list hkey hnested hlength (fun d hd => (trimRow_eq_self_iff.mp (hrows d hd)).2) hkeys
      (fun d hd e he g hg hname => ?_)
    obtain ⟨hself, _⟩ := trimRow_eq_self_iff.mp (hrows d hd)
    obtain ⟨_, hvalues⟩ := (trimEntries_eq_self_iff (hinside _ .own)).mp hself
    exact ih d hd e he g hg hname hg hinside (hvalues e he g hg hname)

/-- Of an object that conforms everything is kept exactly when nothing is empty in it. -/
theorem trimEntries_eq_self_iff_filled (hnames : AllLists NamesApart fields) {d : Dict Json}
    (h : Conforms fields d) : trimEntries fields d = d ↔ ConformsFilled fields d := by
  rw [trimEntries_eq_self_iff (hnames fields .own)]
  refine and_congr_right (fun _ => ?_)
  refine forall_congr' fun e => forall_congr' fun he => forall_congr' fun f =>
    forall_congr' fun hf => forall_congr' fun hname => ⟨fun htrim => ?_, fun hfits => ?_⟩
  · exact fits_of_trim (h.2 e he f hf hname) hf hnames htrim
  · exact trim_of_fits hfits hf hnames

end Fixed

end FieldSchema

namespace CompiledForm

/-- Leaves of one full name have one value in the nested object. -/
def SharesByName (form : CompiledForm) (n : Properties) : Prop :=
  ∀ leaf ∈ form.leaves, ∀ other ∈ form.leaves, leaf.fullName = other.fullName →
    (Json.obj n).readAt leaf.path = (Json.obj n).readAt other.path

theorem get?_valuesFrom_of_shares {form : CompiledForm} {n : Properties} (h : form.SharesByName n)
    {leaf : LeafField} (hleaf : leaf ∈ form.leaves) :
    Dict.get? (form.valuesFrom n) leaf.fullName = (Json.obj n).readAt leaf.path := by
  -- all values collected under a name are that of the first leaf that has it
  let ofName (name : String) : Option Json :=
    (form.leaf? name).bind (fun leaf => (Json.obj n).readAt leaf.path)
  have hofName : ∀ leaf ∈ form.leaves, ofName leaf.fullName = (Json.obj n).readAt leaf.path := by
    intro leaf hleaf
    simp only [ofName]
    cases hfind : form.leaf? leaf.fullName with
    | none => exact absurd (beq_self_eq_true leaf.fullName) (List.find?_eq_none.mp hfind leaf hleaf)
    | some first =>
      have hname : first.fullName = leaf.fullName := by simpa using List.find?_some hfind
      exact h first (List.mem_of_find?_eq_some hfind) leaf hleaf hname
  have hentries : ∀ entry ∈ form.leaves.filterMap
      (fun f => ((Json.obj n).readAt f.path).map (fun v => (f.fullName, v))),
      ofName entry.1 = some entry.2 := by
    intro entry hentry
    obtain ⟨f, hf, hentry⟩ := List.mem_filterMap.mp hentry
    obtain ⟨v, hv, rfl⟩ := Option.map_eq_some_iff.mp hentry
    rw [hofName f hf, hv]
  rw [valuesFrom, collect, Dict.ofList, Dict.get?_overlay_of_function hentries, hofName leaf hleaf]
  split
  · rfl
  · rename_i hmissing
    cases hread : (Json.obj n).readAt leaf.path with
    | none => rfl
    | some v =>
      refine absurd (List.mem_map.mpr ⟨(leaf.fullName, v), ?_, rfl⟩) hmissing
      exact List.mem_filterMap.mpr ⟨leaf, hleaf, by rw [hread]; rfl⟩

theorem sharesByName_of_nodup {form : CompiledForm} (n : Properties)
    (h : (form.leaves.map LeafField.fullName).Nodup) : form.SharesByName n := by
  intro leaf hleaf other hother hname
  rw [List.inj_on_of_nodup_map h hleaf hother hname]

/-- What comes out is the same only if leaves of one name had one value to begin with. -/
theorem sharesByName_of_survives {form : CompiledForm} (haddr : ∀ f ∈ form.fields, Addressed [] f)
    (hnames : DistinctNames form.fields) {n : Properties}
    (h : form.toNested (form.valuesFrom n) = .obj n) : form.SharesByName n := by
  intro leaf hleaf other hother hname
  rw [← h, readAt_toNested haddr hnames _ hleaf, readAt_toNested haddr hnames _ hother, hname]

/-- A nested object that is read and nested again by the form compiled with it comes out as what the
form keeps of it, provided that leaves of one full name have one value. If it conforms, it comes out
as it was exactly when they do and nothing in it is empty. Without dots in names they always do. -/
theorem nested_survives_iff {schema : FormSchema} {n : Properties} {form : CompiledForm}
    (h : compile schema (some n) = .ok form) (hnames : AllLists NamesApart schema.fields)
    (hn : (Json.obj n).Canonical) :
    (form.SharesByName n →
      form.toNested (form.valuesFrom n) = .obj (trimEntries schema.fields n)) ∧
    (Conforms schema.fields n →
      (form.toNested (form.valuesFrom n) = .obj n ↔
        form.SharesByName n ∧ ConformsFilled schema.fields n)) ∧
    (AllLists PlainNames schema.fields → form.SharesByName n) := by
  have htrim (hshares : form.SharesByName n) :
      form.toNested (form.valuesFrom n) = .obj (trimEntries schema.fields n) :=
    toNested_eq_trim h hnames hn (fun leaf hleaf => get?_valuesFrom_of_shares hshares hleaf)
  refine ⟨htrim, fun hconforms => ?_, fun hplain => ?_⟩
  · rw [← trimEntries_eq_self_iff_filled hnames hconforms]
    constructor
    · intro hsurvives
      have hdistinct := distinctNames_of_makes (makes_of_compile (fields_of_compile h)) hnames
      have hshares := sharesByName_of_survives (addressed_of_compile h) hdistinct hsurvives
      refine ⟨hshares, ?_⟩
      rw [htrim hshares, Json.obj.injEq] at hsurvives
      exact hsurvives
    · rintro ⟨hshares, hself⟩
      rw [htrim hshares, hself]
  · exact sharesByName_of_nodup n (unambiguous_edited h [] hplain).nodup_leaves

end CompiledForm

/-- An address with a city. -/
def parcelAddress : FieldSchema where
  name := "address"
  kind := .object
  properties := some [("fields", .arr [.obj [("name", .str "city")]])]

/-- A list of items with numbers. -/
def parcelItems : FieldSchema where
  name := "items"
  kind := .objectArray
  properties := some [("itemFields", .arr [.obj [("name", .str "sku")]])]

def parcelFields : List FieldSchema := [parcelAddress, parcelItems]

def parcelValues : Properties :=
  [("address", .obj [("city", .str "Oslo")]), ("items", .arr [.obj [("sku", .str "A")]])]

def compiledParcel : Except SchemaError CompiledForm :=
  CompiledForm.compile { fields := parcelFields } (some parcelValues)

def parcelForm : CompiledForm := compiledParcel.toOption.getD ⟨[], "", none⟩

theorem parcel_survives :
    compiledParcel = .ok parcelForm ∧ AllLists PlainNames parcelFields ∧
      (Json.obj parcelValues).Canonical ∧ Conforms parcelFields parcelValues ∧
      parcelForm.toNested (parcelForm.valuesFrom parcelValues) = .obj parcelValues := by
  have h : compiledParcel = .ok parcelForm := rfl
  have hplain : AllLists PlainNames parcelFields := by decide +kernel
  have hnames : AllLists NamesApart parcelFields := fun l hl => (hplain l hl).apart
  have hcanonical : (Json.obj parcelValues).Canonical := by
    simp only [parcelValues, Json.Canonical, Json.CanonicalFields, Json.CanonicalItems,
      Dict.Ascending, and_true]
    decide +kernel
  have hfits (least : Nat) (hleast : least ≤ 1) : FitsEntries least parcelFields parcelValues := by
    have hcity : FitsEntries least [{ name := "city" }] [("city", .str "Oslo")] :=
      .cons (by decide) List.mem_cons_self (.leaf _ rfl) (fitsEntries_nil _ _)
    have hsku : FitsEntries least [{ name := "sku" }] [("sku", .str "A")] :=
      .cons (by decide) List.mem_cons_self (.leaf _ rfl) (fitsEntries_nil _ _)
    have haddress : Fits least parcelAddress (.obj [("city", .str "Oslo")]) :=
      .of_entries rfl rfl hleast hcity
    have hitems : Fits least parcelItems (.arr ([[("sku", .str "A")]].map .obj)) :=
      .of_rows rfl rfl hleast (List.forall_mem_singleton.mpr ⟨hleast, hsku⟩)
    exact .cons (hnames _ .own) List.mem_cons_self haddress
      (.cons (hnames _ .own) (List.mem_cons_of_mem _ List.mem_cons_self) hitems
        (fitsEntries_nil _ _))
  have hsurvives := CompiledForm.nested_survives_iff h hnames hcanonical
  have hconforms : Conforms parcelFields parcelValues := hfits 0 (Nat.zero_le 1)
  refine ⟨h, hplain, hcanonical, hconforms, ?_⟩
  exact (hsurvives.2.1 hconforms).mpr ⟨hsurvives.2.2 hplain, hfits 1 (Nat.le_refl 1)⟩

/-- The form compiled with an object that conforms to its schema turns it into another one. -/
def Alters (schema : FormSchema) (n result : Properties) : Prop :=
  ∃ form, CompiledForm.compile schema (some n) = .ok form ∧
    AllLists NamesApart schema.fields ∧ Conforms schema.fields n ∧
    form.toNested (form.valuesFrom n) = .obj result ∧ result ≠ n

/-- Empty rows become null or are left out, empty objects are left out, and of two leaves with one
full name the later one gives its value to both. -/
theorem nested_altered :
    Alters { fields := [parcelItems] }
        [("items", .arr [.obj [], .obj [("sku", .str "A")], .obj []])]
        [("items", .arr [.null, .obj [("sku", .str "A")]])] ∧
      Alters { fields := [parcelAddress] } [("address", .obj [])] [] ∧
      Alters dottedSchema [("a", .obj [("b", .int 1)]), ("a.b", .int 2)]
        [("a", .obj [("b", .int 1)]), ("a.b", .int 1)] := by
  have hnone : FitsEntries 0 [{ name := "sku" }] [] := fitsEntries_nil _ _
  have hsku : FitsEntries 0 [{ name := "sku" }] [("sku", .str "A")] :=
    .cons (by decide) List.mem_cons_self (.leaf _ rfl) (fitsEntries_nil _ _)
  have hrows : Fits 0 parcelItems (.arr ([[], [("sku", .str "A")], []].map .obj)) := by
    refine .of_rows rfl rfl (Nat.zero_le _) ?_
    simp only [List.forall_mem_cons]
    exact ⟨⟨Nat.zero_le _, hnone⟩, ⟨Nat.zero_le _, hsku⟩, ⟨Nat.zero_le _, hnone⟩,
      List.forall_mem_nil _⟩
  have haddress : Fits 0 parcelAddress (.obj []) :=
    .of_entries rfl rfl (Nat.zero_le _) (fitsEntries_nil 0 [{ name := "city" }])
  have hdotted : Conforms dottedSchema.fields [("a", .obj [("b", .int 1)]), ("a.b", .int 2)] := by
    have hb : FitsEntries 0 [{ name := "b" }] [("b", .int 1)] :=
      .cons (by decide) List.mem_cons_self (.leaf _ rfl) (fitsEntries_nil _ _)
    have hnames : NamesApart dottedSchema.fields := by decide
    exact .cons hnames (List.mem_cons_of_mem _ List.mem_cons_self)
      (.of_entries rfl rfl (Nat.zero_le _) hb)
      (.cons hnames List.mem_cons_self (.leaf _ rfl) (fitsEntries_nil _ _))
  refine ⟨⟨_, rfl, by decide +kernel, ?_, rfl, by simp⟩,
    ⟨_, rfl, by decide +kernel, ?_, rfl, by simp⟩,
    ⟨_, rfl, by decide +kernel, hdotted, rfl, by simp⟩⟩
  · exact .cons (by decide) List.mem_cons_self hrows (fitsEntries_nil _ _)
  · exact .cons (by decide) List.mem_cons_self haddress (fitsEntries_nil _ _)

end UiSchema
