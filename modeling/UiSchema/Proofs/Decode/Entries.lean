import UiSchema.Proofs.Decode.Record

/-!
# What a record makes of an entry

A record that is decoded from an object stored every entry whose key it knows. An exact record knows
all keys, and each of them occurs once, so what it holds in a field is what the object has under the
name of the field. What is decoded depends on an entry, or on an item of an array, only by what its
field loads, and a record that is not exact does not depend on entries of other keys.
-/

namespace UiSchema.Record

set_option autoImplicit false

variable {σ : Type} {r : Record σ} {entries : List (String × Json)} {key : String} {v : Json}

theorem field?_eq_none_iff : r.field? key = none ↔ key ∉ r.knownKeys := by
  simp only [field?, List.find?_eq_none, isNamed_iff, knownKeys, List.mem_flatMap,
    not_exists, not_and]

theorem exists_field?_iff : (∃ f, r.field? key = some f) ↔ key ∈ r.knownKeys := by
  rw [← Option.isSome_iff_exists, Option.isSome_iff_ne_none, Ne, field?_eq_none_iff, not_not]

theorem decode_obj_eq_ok {s : σ} :
    r.decode (.obj entries) = .ok s ↔
      ∃ seen, r.loadEntries entries [] r.initial = .ok (seen, s) ∧ r.missing? seen = none := by
  simp only [decode, bind_eq_ok, Prod.exists]
  constructor
  · rintro ⟨seen, t, hload, h⟩
    split at h
    · cases h
    · rename_i hmissing
      cases h
      exact ⟨seen, hload, hmissing⟩
  · rintro ⟨seen, hload, hmissing⟩
    exact ⟨seen, s, hload, by rw [hmissing]⟩

section Loading

variable {seen seen' : List String} {s t : σ}

theorem seen_of_loadEntries (h : r.loadEntries entries seen s = .ok (seen', t)) :
    seen ⊆ seen' := by
  induction entries generalizing seen s with
  | nil =>
    cases h
    exact List.Subset.refl _
  | cons first rest ih =>
    obtain ⟨k, w⟩ := first
    simp only [loadEntries] at h
    split at h
    · split at h
      · cases h
      · exact ih h
    · split at h
      · cases h
      · simp only [bind_eq_ok] at h
        obtain ⟨_, _, h⟩ := h
        exact List.Subset.trans (List.subset_cons_self _ _) (ih h)

/-- An entry of a field is stored, when nothing was stored in the field before. -/
theorem stored_of_loadEntries (h : r.loadEntries entries seen s = .ok (seen', t))
    (he : (key, v) ∈ entries) {f : RecordField σ} (hf : r.field? key = some f) :
    f.name ∉ seen ∧ f.name ∈ seen' ∧ ∃ u u', f.load v u = .ok u' := by
  induction entries generalizing seen s with
  | nil => cases he
  | cons first rest ih =>
    obtain ⟨k, w⟩ := first
    simp only [loadEntries] at h
    cases hfield : r.field? k with
    | none =>
      simp only [hfield] at h
      split at h
      · cases h
      · rcases List.mem_cons.mp he with heq | he
        · cases heq
          rw [hf] at hfield
          cases hfield
        · exact ih h he
    | some g =>
      simp only [hfield] at h
      split at h
      · cases h
      · rename_i hnew
        simp only [bind_eq_ok] at h
        obtain ⟨s', hload, h⟩ := h
        rcases List.mem_cons.mp he with heq | he
        · cases heq
          rw [hf, Option.some.injEq] at hfield
          subst hfield
          exact ⟨by simpa using hnew, seen_of_loadEntries h List.mem_cons_self, s, s', hload⟩
        · obtain ⟨hunseen, hstored⟩ := ih h he
          exact ⟨fun hmem => hunseen (List.mem_cons_of_mem _ hmem), hstored⟩

/-- A name is seen when an entry of its field was stored. -/
theorem entry_of_seen (h : r.loadEntries entries seen s = .ok (seen', t)) {name : String}
    (hname : name ∈ seen') :
    name ∈ seen ∨ ∃ e ∈ entries, ∃ f, r.field? e.1 = some f ∧ f.name = name := by
  induction entries generalizing seen s with
  | nil =>
    cases h
    exact Or.inl hname
  | cons first rest ih =>
    obtain ⟨k, w⟩ := first
    simp only [loadEntries] at h
    split at h
    · split at h
      · cases h
      · rcases ih h with hmem | ⟨e, he, hfield⟩
        · exact Or.inl hmem
        · exact Or.inr ⟨e, List.mem_cons_of_mem _ he, hfield⟩
    · rename_i f hf
      split at h
      · cases h
      · simp only [bind_eq_ok] at h
        obtain ⟨_, _, h⟩ := h
        rcases ih h with hmem | ⟨e, he, hfield⟩
        · rcases List.mem_cons.mp hmem with rfl | hmem
          · exact Or.inr ⟨(k, w), List.mem_cons_self, f, hf, rfl⟩
          · exact Or.inl hmem
        · exact Or.inr ⟨e, List.mem_cons_of_mem _ he, hfield⟩

/-- An exact record knows the keys of all entries, and they are distinct. -/
theorem exact_loadEntries (hexact : r.exact = true)
    (h : r.loadEntries entries seen s = .ok (seen', t)) :
    (∀ e ∈ entries, e.1 ∈ r.knownKeys) ∧ (Dict.keys entries).Nodup := by
  induction entries generalizing seen s with
  | nil => exact ⟨List.forall_mem_nil _, List.nodup_nil⟩
  | cons first rest ih =>
    obtain ⟨k, w⟩ := first
    simp only [loadEntries] at h
    cases hfield : r.field? k with
    | none => simp [hfield, hexact] at h
    | some g =>
      simp only [hfield] at h
      split at h
      · cases h
      · simp only [bind_eq_ok] at h
        obtain ⟨s', _, h⟩ := h
        obtain ⟨hknown, hnodup⟩ := ih h
        refine ⟨List.forall_mem_cons.mpr ⟨exists_field?_iff.mp ⟨g, hfield⟩, hknown⟩, ?_⟩
        refine List.nodup_cons.mpr ⟨fun hmem => ?_, hnodup⟩
        obtain ⟨⟨k', w'⟩, he, heq⟩ := List.mem_map.mp hmem
        cases heq
        exact (stored_of_loadEntries h he hfield).1 List.mem_cons_self

end Loading

/-- A required field is given under its name or an alias. -/
theorem given_of_required (hr : r.Lawful) {s : σ} (h : r.decode (.obj entries) = .ok s)
    {f : RecordField σ} (hf : f ∈ r.fields) (hrequired : f.required = true) :
    ∃ key ∈ f.name :: f.aliases, ((Json.obj entries).field? key).isSome = true := by
  obtain ⟨seen, hload, hmissing⟩ := decode_obj_eq_ok.mp h
  have hseen : f.name ∈ seen := by
    have hfind := List.find?_eq_none.mp (Option.map_eq_none_iff.mp hmissing) f hf
    simpa [hrequired] using hfind
  rcases entry_of_seen hload hseen with hnil | ⟨⟨key, v⟩, he, g, hg, hname⟩
  · cases hnil
  · have hfg : g = f :=
      hr.eq_of_isNamed (mem_of_field? hg) hf (isNamed_name g) (hname ▸ isNamed_name f)
    have hkey := isNamed_iff.mp (isNamed_of_field? hg)
    subst hfg
    exact ⟨key, hkey, Dict.isSome_get?_of_mem he⟩

section Exact

variable {s : σ} (hexact : r.exact = true) (h : r.decode (.obj entries) = .ok s)

/-- What is decoded from an object was stored field by field. -/
theorem stored_of_decode (h : r.decode (.obj entries) = .ok s) (he : (key, v) ∈ entries)
    {f : RecordField σ} (hf : r.field? key = some f) : ∃ u u', f.load v u = .ok u' := by
  obtain ⟨_, hload, _⟩ := decode_obj_eq_ok.mp h
  exact (stored_of_loadEntries hload he hf).2.2

include hexact h

theorem known_of_decode (hkey : ((Json.obj entries).field? key).isSome = true) :
    key ∈ r.knownKeys := by
  obtain ⟨v, hv⟩ := Option.isSome_iff_exists.mp hkey
  obtain ⟨_, hload, _⟩ := decode_obj_eq_ok.mp h
  exact (exact_loadEntries hexact hload).1 (key, v) (Dict.mem_of_get? hv)

variable (hr : r.Lawful) (hsettles : ∀ f ∈ r.fields, f.Settles)
include hr hsettles

/-- A field without aliases holds what the object has under its name; if there is nothing, it is not
required and left as it is initially. -/
theorem holds_of_decode {f : RecordField σ} (hf : f ∈ r.fields) (haliases : f.aliases = []) :
    (∃ v, (Json.obj entries).field? f.name = some v ∧ f.Holds v s) ∨
      ((Json.obj entries).field? f.name = none ∧ f.required = false ∧
        ∀ v, f.Holds v r.initial → f.Holds v s) := by
  obtain ⟨seen, hload, hmissing⟩ := decode_obj_eq_ok.mp h
  rcases loadEntries_inv hr hsettles hload hf with ⟨_, ⟨k, v⟩, he, hfield, hholds⟩ | ⟨hiff, hkeeps⟩
  · have hkey := isNamed_of_field? hfield
    rw [isNamed_iff, haliases, List.mem_singleton] at hkey
    subst hkey
    exact Or.inl ⟨v, Dict.get?_of_mem (exact_loadEntries hexact hload).2 he, hholds⟩
  · have hunseen : f.name ∉ seen := fun hmem => List.not_mem_nil (hiff.mp hmem)
    refine Or.inr ⟨?_, ?_, hkeeps⟩
    · cases hget : (Json.obj entries).field? f.name with
      | none => rfl
      | some v =>
        have hstored := stored_of_loadEntries hload (Dict.mem_of_get? hget) (hr.field?_eq hf)
        exact absurd hstored.2.1 hunseen
    · simpa [hunseen] using List.find?_eq_none.mp (Option.map_eq_none_iff.mp hmissing) f hf

end Exact

section Parts

variable {f : RecordField σ} {w w' : Json}

theorem loadEntries_replace (hf : r.field? key = some f) (hload : ∀ u, f.load w' u = f.load w u)
    (before after : List (String × Json)) (seen : List String) (s : σ) :
    r.loadEntries (before ++ (key, w') :: after) seen s =
      r.loadEntries (before ++ (key, w) :: after) seen s := by
  induction before generalizing seen s with
  | nil => simp only [List.nil_append, loadEntries, hf, hload]
  | cons first rest ih => simp only [List.cons_append, loadEntries, ih]

theorem loadEntries_ignore (hexact : r.exact = false) (hf : r.field? key = none)
    (before after : List (String × Json)) (seen : List String) (s : σ) :
    r.loadEntries (before ++ (key, w) :: after) seen s = r.loadEntries (before ++ after) seen s := by
  induction before generalizing seen s with
  | nil => simp only [List.nil_append, loadEntries, hf, hexact, Bool.false_eq_true, if_false]
  | cons first rest ih => simp only [List.cons_append, loadEntries, ih]

variable {given : Nat} {fs : List (RecordField σ)}

theorem loadItems_replace {before : List Json} (hf : fs[before.length]? = some f)
    (hload : ∀ u, f.load w' u = f.load w u) (after : List Json) (i : Nat) (s : σ) :
    r.loadItems given fs (before ++ w' :: after) i s =
      r.loadItems given fs (before ++ w :: after) i s := by
  induction before generalizing fs i s with
  | nil =>
    cases fs with
    | nil => cases hf
    | cons g rest =>
      cases hf
      simp only [List.nil_append, loadItems, hload]
  | cons first before ih =>
    cases fs with
    | nil => cases hf
    | cons g rest => simp only [List.cons_append, loadItems, ih hf]

theorem stored_of_loadItems {before after : List Json} {i : Nat} {s t : σ}
    (hf : fs[before.length]? = some f)
    (h : r.loadItems given fs (before ++ w :: after) i s = .ok t) : ∃ u u', f.load w u = .ok u' := by
  induction before generalizing fs i s with
  | nil =>
    cases fs with
    | nil => cases hf
    | cons g rest =>
      cases hf
      simp only [List.nil_append, loadItems, bind_eq_ok] at h
      obtain ⟨u', hload, _⟩ := h
      exact ⟨s, u', hload⟩
  | cons first before ih =>
    cases fs with
    | nil => cases hf
    | cons g rest =>
      simp only [List.cons_append, loadItems, bind_eq_ok] at h
      obtain ⟨_, _, h⟩ := h
      exact ih hf h

end Parts

end UiSchema.Record
