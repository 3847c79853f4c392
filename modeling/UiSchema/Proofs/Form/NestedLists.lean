import UiSchema.Proofs.Form.Compilation
import UiSchema.Proofs.Form.RoundTrip

/-!
# The lists inside fields

The lists inside fields are decoded when they are compiled. Compiling without values goes into the
lists of groups; of a repetition it decodes the list of item fields and does not go into it, as
there is no row. So it succeeds exactly when the lists decode that are reached through groups.
-/

namespace UiSchema

set_option autoImplicit false

namespace FieldSchema

section Depth

theorem settles_fields : ∀ f ∈ record.fields, f.Settles := by
  simp only [record, List.forall_mem_cons]
  exact ⟨RecordField.settles ⟨rfl, rfl⟩, RecordField.settles ⟨rfl, rfl⟩,
    RecordField.settles ⟨rfl, rfl⟩, RecordField.settles ⟨rfl, rfl⟩,
    RecordField.settles ⟨rfl, rfl⟩, RecordField.settles ⟨rfl, rfl⟩,
    RecordField.settles ⟨rfl, rfl⟩, List.forall_mem_nil _⟩

theorem nesting_of_readOptional {w : Json} {f : FieldSchema}
    (h : RecordField.readOptional .properties w = .ok f.properties) : f.nesting ≤ w.depth := by
  cases w with
  | null =>
    cases hproperties : f.properties with
    | none => simp [nesting, hproperties]
    | some properties => simp [RecordField.readOptional, hproperties] at h
  | obj fields =>
    have hproperties : some fields = f.properties := Except.ok.inj h
    have hdepth : f.nesting = (Json.obj fields).depth := by rw [nesting, ← hproperties, Json.depth]
    exact Nat.le_of_eq hdepth
  | _ => cases h

theorem nesting_le_depth {v : Json} {f : FieldSchema} (h : codec.decode v = .ok f) :
    f.nesting ≤ v.depth := by
  have hmem : RecordField.optional "properties" .properties
      (fun a (s : FieldSchema) => { s with properties := a }) (·.properties) ∈ record.fields :=
    List.mem_of_getElem? (i := 5) rfl
  rcases Record.decode_inv lawful settles_fields h hmem with ⟨w, hpart, hholds⟩ | ⟨_, hkeeps⟩
  · have hread := (RecordField.holds_iff ⟨rfl, rfl⟩).mp hholds
    exact Nat.le_trans (nesting_of_readOptional hread) (Nat.le_of_lt (Json.depth_lt_of_part hpart))
  -- no properties were read, so the field has none, as if it had read null
  · have hholds := hkeeps .null ((RecordField.holds_iff ⟨rfl, rfl⟩).mpr rfl)
    have hread := (RecordField.holds_iff ⟨rfl, rfl⟩).mp hholds
    exact Nat.le_trans (nesting_of_readOptional hread) (Nat.zero_le _)

theorem nesting_le_nestingOf {f : FieldSchema} {fields : List FieldSchema} (h : f ∈ fields) :
    f.nesting ≤ nestingOf fields := by
  induction fields with
  | nil => cases h
  | cons first rest ih =>
    rw [nestingOf]
    rcases List.mem_cons.mp h with rfl | h
    · exact Nat.le_max_left _ _
    · exact Nat.le_trans (ih h) (Nat.le_max_right _ _)

theorem nestingOf_le {fields : List FieldSchema} {n : Nat} (h : ∀ f ∈ fields, f.nesting ≤ n) :
    nestingOf fields ≤ n := by
  induction fields with
  | nil => exact Nat.zero_le n
  | cons first rest ih =>
    obtain ⟨hfirst, hrest⟩ := List.forall_mem_cons.mp h
    exact Nat.max_le.mpr ⟨hfirst, ih hrest⟩

/-- The lists inside a field are nested less deep than the field. -/
theorem nestingOf_lt_nesting {f : FieldSchema} {key : NestedKey} {path : String}
    {nested : List FieldSchema} (h : f.nestedFields key path = .ok nested) :
    nestingOf nested < f.nesting := by
  unfold nestedFields property? at h
  split at h
  · cases h
  · rename_i v hv
    obtain ⟨properties, hproperties, hget⟩ := Option.bind_eq_some_iff.mp hv
    have hdepth : v.depth ≤ Json.depthFields properties :=
      Json.depth_le_depthFields (Dict.mem_of_get? hget)
    rw [nesting, hproperties]
    apply Nat.lt_succ_of_le
    rw [mapError_eq_ok] at h
    cases v with
    | arr items =>
      apply nestingOf_le
      intro g hg
      obtain ⟨w, hw, hdecode⟩ := Codec.exists_of_mem_decodeItems h g hg
      have hitem : w.depth < (Json.arr items).depth := Json.depth_lt_of_part hw
      exact Nat.le_trans (nesting_le_depth hdecode) (by omega)
    | _ => cases h

end Depth

/-- The key of the list that a field has in its properties, when it is of a kind that has one. -/
def nestedKey? (f : FieldSchema) : Option NestedKey :=
  match f.kind with
  | .object => some .fields
  | .objectArray => some .itemFields
  | _ => none

theorem nestedKey?_eq_fields {f : FieldSchema} : f.nestedKey? = some .fields ↔ f.kind = .object := by
  unfold nestedKey?
  split <;> simp_all

theorem nestedKey?_eq_itemFields {f : FieldSchema} :
    f.nestedKey? = some .itemFields ↔ f.kind = .objectArray := by
  unfold nestedKey?
  split <;> simp_all

theorem nestedKey?_eq_none {f : FieldSchema} :
    f.nestedKey? = none ↔ f.kind ≠ .object ∧ f.kind ≠ .objectArray := by
  unfold nestedKey?
  split <;> simp_all

/-- The lists inside the fields are there and decode. The same holds inside of those lists whose key
is one that counts. -/
inductive Readable (counts : NestedKey → Prop) : List FieldSchema → Prop
  | intro {fields : List FieldSchema} :
      (∀ f ∈ fields, ∀ key, f.nestedKey? = some key →
        ∃ nested, f.nestedFields key "" = .ok nested) →
      (∀ f ∈ fields, ∀ key nested, f.nestedKey? = some key →
        f.nestedFields key "" = .ok nested → counts key → Readable counts nested) →
      Readable counts fields

/-- Lists decode at every depth. -/
def Sound (fields : List FieldSchema) : Prop := Readable (fun _ => True) fields

/-- Lists decode as far as they are reached through groups. -/
def Opens (fields : List FieldSchema) : Prop := Readable (fun key => key = .fields) fields

section Readable

variable {counts : NestedKey → Prop} {fields : List FieldSchema} {f : FieldSchema} {key : NestedKey}

theorem Readable.exists_nested (h : Readable counts fields) (hf : f ∈ fields)
    (hkey : f.nestedKey? = some key) : ∃ nested, f.nestedFields key "" = .ok nested := by
  cases h with
  | intro hread _ => exact hread f hf key hkey

theorem Readable.nested (h : Readable counts fields) (hf : f ∈ fields)
    (hkey : f.nestedKey? = some key) (hcounts : counts key) {path : String}
    {nested : List FieldSchema} (hnested : f.nestedFields key path = .ok nested) :
    Readable counts nested := by
  cases h with
  | intro _ hinside => exact hinside f hf key nested hkey (nestedFields_path hnested "") hcounts

theorem Readable.nil : Readable counts [] := by
  constructor
  · intro f hf
    cases hf
  · intro f hf
    cases hf

theorem Readable.cons
    (hf : ∀ key, f.nestedKey? = some key →
      ∃ nested, f.nestedFields key "" = .ok nested ∧ Readable counts nested)
    (h : Readable counts fields) : Readable counts (f :: fields) := by
  constructor
  · intro g hg key hkey
    rcases List.mem_cons.mp hg with rfl | hg
    · obtain ⟨nested, hnested, _⟩ := hf key hkey
      exact ⟨nested, hnested⟩
    · exact h.exists_nested hg hkey
  · intro g hg key nested hkey hnested hcounts
    rcases List.mem_cons.mp hg with rfl | hg
    · obtain ⟨inside, hread, hinside⟩ := hf key hkey
      rw [hnested] at hread
      cases hread
      exact hinside
    · exact h.nested hg hkey hcounts hnested

theorem Readable.plain (hkey : f.nestedKey? = none) (h : Readable counts fields) :
    Readable counts (f :: fields) := by
  refine .cons (fun other hother => ?_) h
  rw [hkey] at hother
  cases hother

theorem Readable.nest {inside : List FieldSchema} (hkey : f.nestedKey? = some key)
    (hread : f.nestedFields key "" = .ok inside) (hinside : Readable counts inside)
    (h : Readable counts fields) : Readable counts (f :: fields) := by
  refine .cons (fun other hother => ?_) h
  rw [hkey] at hother
  cases hother
  exact ⟨inside, hread, hinside⟩

theorem Readable.of_subset {other : List FieldSchema} (h : Readable counts fields)
    (hsubset : ∀ f ∈ other, f ∈ fields) : Readable counts other := by
  constructor
  · intro f hf key hkey
    exact h.exists_nested (hsubset f hf) hkey
  · intro f hf key nested hkey hnested hcounts
    exact h.nested (hsubset f hf) hkey hcounts hnested

theorem Readable.sortByOrder (h : Readable counts fields) :
    Readable counts (sortByOrder fields) :=
  h.of_subset (fun _ hf => mem_sortByOrder.mp hf)

theorem Sound.opens (h : Sound fields) : Opens fields := by
  unfold Sound at h
  induction h with
  | intro hread _ ih =>
    constructor
    · exact hread
    · intro f hf key nested hkey hnested _
      exact ih f hf key nested hkey hnested trivial

end Readable

section Blank

variable {compile : Compiler} {parent : FieldPath} {seed : Seed} {f : FieldSchema}
variable {c : CompiledField}

theorem Compiles.exists_nested (hc : Compiles compile parent seed f c) {key : NestedKey}
    (hkey : f.nestedKey? = some key) : ∃ nested, f.nestedFields key "" = .ok nested := by
  cases key with
  | fields =>
    have hkind := nestedKey?_eq_fields.mp hkey
    cases hc with
    | leaf hobject _ => exact absurd hkind hobject
    | group _ hnested _ => exact ⟨_, nestedFields_path hnested ""⟩
    | repeated harray _ _ => rw [hkind] at harray; cases harray
  | itemFields =>
    have hkind := nestedKey?_eq_itemFields.mp hkey
    cases hc with
    | leaf _ harray => exact absurd hkind harray
    | group hobject _ _ => rw [hkind] at hobject; cases hobject
    | repeated _ hnested _ => exact ⟨_, nestedFields_path hnested ""⟩

theorem Compiles.exists_inside (hc : Compiles compile parent seed f c)
    {nested : List FieldSchema} (hkey : f.nestedKey? = some .fields)
    (hnested : f.nestedFields .fields "" = .ok nested) :
    ∃ result, compile nested (parent.child f.name) (seed.nested f) = .ok result := by
  have hkind := nestedKey?_eq_fields.mp hkey
  cases hc with
  | leaf hobject _ => exact absurd hkind hobject
  | group _ hread hfields =>
    rw [nestedFields_path hnested] at hread
    cases hread
    exact ⟨_, hfields⟩
  | repeated harray _ _ => rw [hkind] at harray; cases harray

theorem exists_compiles (hread : ∀ key, f.nestedKey? = some key →
      ∃ nested, f.nestedFields key "" = .ok nested)
    (hinside : ∀ nested, f.nestedKey? = some .fields → f.nestedFields .fields "" = .ok nested →
      ∃ result, compile nested (parent.child f.name) .blank = .ok result) :
    ∃ c, Compiles compile parent .blank f c := by
  by_cases hobject : f.kind = .object
  · have hkey := nestedKey?_eq_fields.mpr hobject
    obtain ⟨nested, hnested⟩ := hread .fields hkey
    obtain ⟨result, hresult⟩ := hinside nested hkey hnested
    exact ⟨_, .group hobject (nestedFields_path hnested _) hresult⟩
  · by_cases harray : f.kind = .objectArray
    -- without values there are no rows to compile
    · obtain ⟨nested, hnested⟩ := hread .itemFields (nestedKey?_eq_itemFields.mpr harray)
      exact ⟨_, .repeated harray (nestedFields_path hnested _) rfl⟩
    · exact ⟨_, .leaf hobject harray⟩

/-- Whatever the seed, what was compiled opens. -/
theorem opens_of_compileWithin (depth : Nat) :
    ∀ ⦃fields parent seed result⦄, compileWithin depth fields parent seed = .ok result →
      Opens fields := by
  refine compileWithin_of_level (P := fun compile => ∀ ⦃fields parent seed result⦄,
    compile fields parent seed = .ok result → Opens fields) ?_ (fun compile ih => ?_) depth
  · intro fields parent seed result hresult
    exact absurd hresult refuseAll_ne_ok
  · intro fields parent seed result hresult
    have hcompiles : ∀ f ∈ fields, ∃ c, Compiles compile parent seed f c := by
      intro f hf
      obtain ⟨c, hc⟩ := exists_compileAll.mp ⟨result, hresult⟩ f (mem_sortByOrder.mpr hf)
      exact ⟨c, compileField_eq_ok.mp hc⟩
    constructor
    · intro f hf key hkey
      obtain ⟨c, hc⟩ := hcompiles f hf
      exact hc.exists_nested hkey
    · intro f hf key nested hkey hnested hkeyed
      subst hkeyed
      obtain ⟨c, hc⟩ := hcompiles f hf
      obtain ⟨inside, hinside⟩ := hc.exists_inside hkey hnested
      exact ih hinside

theorem exists_compileWithin {fields : List FieldSchema} (h : Opens fields) {depth : Nat}
    (hdepth : nestingOf fields ≤ depth) (parent : FieldPath) :
    ∃ result, compileWithin depth fields parent .blank = .ok result := by
  unfold Opens at h
  induction h generalizing depth parent with
  | @intro fields hread hinside ih =>
    have hlevel (compile : Compiler) (hcompile : ∀ f ∈ fields, ∀ nested,
        f.nestedKey? = some .fields → f.nestedFields .fields "" = .ok nested →
          ∃ result, compile nested (parent.child f.name) .blank = .ok result) :
        ∃ result, compileLevel compile fields parent .blank = .ok result := by
      apply exists_compileAll.mpr
      intro f hf
      have hf := mem_sortByOrder.mp hf
      obtain ⟨c, hc⟩ := exists_compiles (hread f hf) (hcompile f hf)
      exact ⟨c, compileField_eq_ok.mpr hc⟩
    have hless {f : FieldSchema} (hf : f ∈ fields) {nested : List FieldSchema}
        (hnested : f.nestedFields .fields "" = .ok nested) : nestingOf nested < depth :=
      Nat.lt_of_lt_of_le (nestingOf_lt_nesting hnested)
        (Nat.le_trans (nesting_le_nestingOf hf) hdepth)
    -- the bound is above the nesting of every group, so it is used up below the last of them only
    cases depth with
    | zero =>
      refine hlevel refuseAll (fun f hf nested _ hnested => ?_)
      exact absurd (hless hf hnested) (Nat.not_lt_zero _)
    | succ depth =>
      refine hlevel _ (fun f hf nested hkey hnested => ?_)
      exact ih f hf .fields nested hkey hnested rfl (Nat.le_of_lt_succ (hless hf hnested)) _

theorem compile_blank_iff {fields : List FieldSchema} (parent : FieldPath) :
    (∃ result, FieldSchema.compile fields parent .blank = .ok result) ↔ Opens fields := by
  constructor
  · rintro ⟨result, h⟩
    exact opens_of_compileWithin _ h
  · intro h
    exact exists_compileWithin h (Nat.le_refl _) parent

end Blank

end FieldSchema

end UiSchema
