import Mathlib.Data.List.Nodup
import Mathlib.Data.List.Pairwise
import UiSchema.Proofs.Decode.Field

/-!
# Records that restore what they read

What decoding a record gives holds, in every field, a part of the value that was decoded, or what
the initial structure holds there. The fields of a lawful record have different keys, are stored in
different places and determine the structure, so decoding is blind to the order of entries: if all
fields of a structure are restored, its arranged encoding is decoded to it.
-/

namespace UiSchema

set_option autoImplicit false

open Json (Arrangement Part)

namespace Record

variable {σ : Type} {r : Record σ}

/-- The fields have keys and places of their own, and nothing else is in the structure. -/
structure Lawful (r : Record σ) : Prop where
  keys : r.knownKeys.Nodup
  independent : r.fields.Pairwise RecordField.Independent
  determined : ∀ {s t}, (∀ f ∈ r.fields, f.Agree s t) → s = t

section Keys

theorem isNamed_iff {f : RecordField σ} {key : String} :
    f.isNamed key = true ↔ key ∈ f.name :: f.aliases := by
  rw [RecordField.isNamed, Bool.or_eq_true, beq_iff_eq, List.contains_iff_mem, List.mem_cons,
    eq_comm]

theorem isNamed_name (f : RecordField σ) : f.isNamed f.name = true :=
  isNamed_iff.mpr List.mem_cons_self

theorem mem_of_field? {f : RecordField σ} {key : String} (h : r.field? key = some f) :
    f ∈ r.fields :=
  List.mem_of_find?_eq_some h

theorem isNamed_of_field? {f : RecordField σ} {key : String} (h : r.field? key = some f) :
    f.isNamed key = true := by
  rw [field?] at h
  simpa using List.find?_some h

variable (hr : r.Lawful)
include hr

theorem Lawful.eq_of_isNamed {f g : RecordField σ} (hf : f ∈ r.fields) (hg : g ∈ r.fields)
    {key : String} (hfkey : f.isNamed key = true) (hgkey : g.isNamed key = true) : f = g := by
  by_contra hne
  have hdisjoint := (List.nodup_flatMap.mp hr.keys).2
  have hsymm : Std.Symm (Function.onFun List.Disjoint
      (fun f : RecordField σ => f.name :: f.aliases)) :=
    ⟨fun _ _ h key hg hf => h hf hg⟩
  exact hdisjoint.forall hf hg hne (isNamed_iff.mp hfkey) (isNamed_iff.mp hgkey)

theorem Lawful.field?_eq {f : RecordField σ} (hf : f ∈ r.fields) : r.field? f.name = some f := by
  cases hfield : r.field? f.name with
  | none => exact absurd (isNamed_name f) (by simpa using List.find?_eq_none.mp hfield f hf)
  | some g =>
    rw [hr.eq_of_isNamed hf (mem_of_field? hfield) (isNamed_name f) (isNamed_of_field? hfield)]

theorem Lawful.independent_of_ne {f g : RecordField σ} (hf : f ∈ r.fields) (hg : g ∈ r.fields)
    (hne : f ≠ g) : f.Independent g := by
  have hsymm : Std.Symm (RecordField.Independent (σ := σ)) := ⟨fun _ _ h => ⟨h.right, h.left⟩⟩
  exact hr.independent.forall hf hg hne

end Keys

section Loading

variable {given : Nat}

/-- Storing items by position gives each field an item to hold, or it is not required and left
alone; what is independent of all the fields is left alone as well. -/
theorem loadItems_inv {fs : List (RecordField σ)} {vs : List Json} {i : Nat} {s t : σ}
    (hsettles : ∀ f ∈ fs, f.Settles) (hindependent : fs.Pairwise RecordField.Independent)
    (h : r.loadItems given fs vs i s = .ok t) :
    (∀ f ∈ fs, (∃ v ∈ vs, f.Holds v t) ∨
      (f.required = false ∧ ∀ v, f.Holds v s → f.Holds v t)) ∧
    ∀ g : RecordField σ, (∀ f ∈ fs, g.Spares f) → ∀ v, g.Holds v s → g.Holds v t := by
  -- the second half carries the induction: what is stored first stays while the rest is stored
  induction fs generalizing vs i s with
  | nil =>
    cases vs with
    | nil =>
      cases h
      exact ⟨List.forall_mem_nil _, fun _ _ _ hv => hv⟩
    | cons v vs => cases h
  | cons f fs ih =>
    obtain ⟨hf, hfs⟩ := List.forall_mem_cons.mp hsettles
    obtain ⟨hfirst, hrest⟩ := List.pairwise_cons.mp hindependent
    cases vs with
    | nil =>
      simp only [loadItems] at h
      split at h
      · cases h
      · rename_i hrequired
        obtain ⟨hfields, hothers⟩ := ih hfs hrest h
        refine ⟨List.forall_mem_cons.mpr ⟨Or.inr ⟨by simpa using hrequired, ?_⟩, hfields⟩, ?_⟩
        · exact hothers f (fun g hg => (hfirst g hg).left)
        · exact fun g hg => hothers g (List.forall_mem_cons.mp hg).2
    | cons v vs =>
      simp only [loadItems, bind_eq_ok] at h
      obtain ⟨s', hload, h⟩ := h
      obtain ⟨hfields, hothers⟩ := ih hfs hrest h
      refine ⟨List.forall_mem_cons.mpr ⟨Or.inl ⟨v, List.mem_cons_self, ?_⟩, fun g hg => ?_⟩, ?_⟩
      · exact hothers f (fun g hg => (hfirst g hg).left) v (hf hload).1
      · rcases hfields g hg with ⟨w, hw, hholds⟩ | ⟨hrequired, hkeeps⟩
        · exact Or.inl ⟨w, List.mem_cons_of_mem v hw, hholds⟩
        · exact Or.inr ⟨hrequired, fun w hholds => hkeeps w ((hfirst g hg).right hholds hload)⟩
      · intro g hg w hholds
        obtain ⟨hgf, hgfs⟩ := List.forall_mem_cons.mp hg
        exact hothers g hgfs w (hgf hholds hload)

variable (hr : r.Lawful) (hsettles : ∀ f ∈ r.fields, f.Settles)
include hr hsettles

/-- Storing entries gives a field the value of an entry to hold, and its name is seen then, or
leaves the field alone. -/
theorem loadEntries_inv {entries : List (String × Json)} {seen seen' : List String} {s t : σ}
    (h : r.loadEntries entries seen s = .ok (seen', t)) {f : RecordField σ} (hf : f ∈ r.fields) :
    (f.name ∈ seen' ∧ ∃ e ∈ entries, r.field? e.1 = some f ∧ f.Holds e.2 t) ∨
      ((f.name ∈ seen' ↔ f.name ∈ seen) ∧ ∀ v, f.Holds v s → f.Holds v t) := by
  induction entries generalizing seen s with
  | nil =>
    cases h
    exact Or.inr ⟨Iff.rfl, fun _ hv => hv⟩
  | cons first rest ih =>
    obtain ⟨key, v⟩ := first
    simp only [loadEntries] at h
    cases hfield : r.field? key with
    | none =>
      simp only [hfield] at h
      split at h
      · cases h
      · refine (ih h).imp_left (fun ⟨hseen, e, he, hrest⟩ => ?_)
        exact ⟨hseen, e, List.mem_cons_of_mem _ he, hrest⟩
    | some g =>
      simp only [hfield] at h
      split at h
      · cases h
      · simp only [bind_eq_ok] at h
        obtain ⟨s', hload, h⟩ := h
        have hg := mem_of_field? hfield
        rcases ih h with ⟨hseen, e, he, hrest⟩ | ⟨hseen, hkeeps⟩
        · exact Or.inl ⟨hseen, e, List.mem_cons_of_mem _ he, hrest⟩
        · by_cases hfg : f = g
          · subst hfg
            exact Or.inl ⟨hseen.mpr List.mem_cons_self, (key, v), List.mem_cons_self, hfield,
              hkeeps v (hsettles f hf hload).1⟩
          · have hname : f.name ≠ g.name := fun heq =>
              hfg (hr.eq_of_isNamed hf hg (isNamed_name f) (heq ▸ isNamed_name g))
            refine Or.inr ⟨hseen.trans (by simp [hname]), fun w hw => hkeeps w ?_⟩
            exact (hr.independent_of_ne hf hg hfg).left hw hload

/-- What decoding gives: each field holds a part of the value or, when it is not required, what the
initial structure holds in it. -/
theorem decode_inv {v : Json} {s : σ} (h : r.decode v = .ok s) {f : RecordField σ}
    (hf : f ∈ r.fields) :
    (∃ w, Part w v ∧ f.Holds w s) ∨
      (f.required = false ∧ ∀ w, f.Holds w r.initial → f.Holds w s) := by
  cases v with
  | obj entries =>
    simp only [decode, bind_eq_ok] at h
    obtain ⟨⟨seen, t⟩, hload, h⟩ := h
    split at h
    · cases h
    · rename_i hmissing
      cases h
      rcases loadEntries_inv hr hsettles hload hf with ⟨_, e, he, _, hholds⟩ | ⟨hseen, hkeeps⟩
      · exact Or.inl ⟨e.2, ⟨e.1, he⟩, hholds⟩
      · refine Or.inr ⟨?_, hkeeps⟩
        have hunseen : f.name ∉ seen := fun hmem => List.not_mem_nil (hseen.mp hmem)
        simpa [hunseen] using List.find?_eq_none.mp (Option.map_eq_none_iff.mp hmissing) f hf
  | arr items =>
    rcases (loadItems_inv hsettles hr.independent h).1 f hf with ⟨w, hw, hholds⟩ | hleft
    · exact Or.inl ⟨w, hw, hholds⟩
    · exact Or.inr hleft
  | _ => cases h

end Loading

section Restoring

variable {A : Arrangement}

/-- The entries of the encoding. -/
def entries (r : Record σ) (s : σ) : List (String × Json) :=
  r.fields.filterMap (fun f => (f.save s).map (fun v => (f.name, v)))

/-- Entries with different keys, each of a value that its field can store, are all stored. -/
theorem loadEntries_ok {entries : List (String × Json)} {seen : List String} (s : σ)
    (hkeys : (Dict.keys entries).Nodup) (hnew : ∀ e ∈ entries, e.1 ∉ seen)
    (h : ∀ e ∈ entries, ∃ f, r.field? e.1 = some f ∧ f.name = e.1 ∧
      ∀ s, ∃ s', f.load e.2 s = .ok s') :
    ∃ seen' t, r.loadEntries entries seen s = .ok (seen', t) ∧
      ∀ name, name ∈ seen' ↔ name ∈ seen ∨ name ∈ Dict.keys entries := by
  induction entries generalizing seen s with
  | nil => exact ⟨seen, s, rfl, fun name => by simp [Dict.keys]⟩
  | cons e rest ih =>
    obtain ⟨key, v⟩ := e
    obtain ⟨hkey, hrest⟩ := List.nodup_cons.mp hkeys
    obtain ⟨⟨f, hfield, hname, htotal⟩, hentries⟩ := List.forall_mem_cons.mp h
    obtain ⟨hunseen, hnew⟩ := List.forall_mem_cons.mp hnew
    obtain ⟨s', hload⟩ := htotal s
    have hnew' : ∀ e ∈ rest, e.1 ∉ f.name :: seen := by
      intro e he hmem
      rcases List.mem_cons.mp hmem with heq | hmem
      · exact hkey (List.mem_map.mpr ⟨e, he, heq.trans hname⟩)
      · exact hnew e he hmem
    obtain ⟨seen', t, hrun, hseen⟩ := ih s' hrest hnew' hentries
    refine ⟨seen', t, ?_, fun name => ?_⟩
    · have hcontains : seen.contains f.name = false := by
        simpa [hname] using hunseen
      simp only [loadEntries, hfield, hcontains, Bool.false_eq_true, if_false, bind_eq_ok]
      exact ⟨s', hload, hrun⟩
    · rw [hseen, hname]
      simp [Dict.keys, or_assoc, or_left_comm]

theorem mem_entries {s : σ} {key : String} {v : Json} :
    (key, v) ∈ r.entries s ↔ ∃ f ∈ r.fields, f.name = key ∧ f.save s = some v := by
  rw [entries, List.mem_filterMap]
  refine exists_congr (fun f => and_congr_right (fun _ => ?_))
  rw [Option.map_eq_some_iff]
  constructor
  · rintro ⟨w, hw, heq⟩
    cases heq
    exact ⟨rfl, hw⟩
  · rintro ⟨rfl, hv⟩
    exact ⟨v, hv, rfl⟩

variable (hr : r.Lawful)
include hr

theorem Lawful.nodup_keys_entries (s : σ) : (Dict.keys (r.entries s)).Nodup := by
  rw [Dict.keys, entries, List.Nodup, List.pairwise_map, List.pairwise_filterMap]
  refine (List.nodup_flatMap.mp hr.keys).2.imp ?_
  intro f g hdisjoint e he e' he' heq
  obtain ⟨_, _, rfl⟩ := Option.map_eq_some_iff.mp he
  obtain ⟨_, _, rfl⟩ := Option.map_eq_some_iff.mp he'
  have hname : f.name = g.name := heq
  have hmem : f.name ∈ g.name :: g.aliases := by
    rw [hname]
    exact List.mem_cons_self
  exact hdisjoint List.mem_cons_self hmem

/-- An arranged encoding is an object of the arranged values of the fields that are not left out. -/
theorem Lawful.form_encode (A : Arrangement) (s : σ) :
    ∃ entries, A.form (r.encode s) = .obj entries ∧ (Dict.keys entries).Nodup ∧
      ∀ {key v}, (key, v) ∈ entries ↔
        ∃ f ∈ r.fields, f.name = key ∧ (f.save s).map A.form = some v := by
  obtain ⟨entries, hform, hperm⟩ := A.form_obj (hr.nodup_keys_entries s)
  refine ⟨entries, hform, ?_, fun {key v} => ?_⟩
  · have hkeys := hperm.map Prod.fst
    rw [← Dict.keys, ← Dict.keys, Dict.keys_mapValues] at hkeys
    exact hkeys.nodup_iff.mpr (hr.nodup_keys_entries s)
  · rw [hperm.mem_iff, Dict.mapValues, List.mem_map]
    constructor
    · rintro ⟨⟨k, w⟩, hw, heq⟩
      cases heq
      obtain ⟨f, hf, hname, hsave⟩ := mem_entries.mp hw
      exact ⟨f, hf, hname, by rw [hsave, Option.map_some]⟩
    · rintro ⟨f, hf, hname, hsave⟩
      obtain ⟨w, hw, rfl⟩ := Option.map_eq_some_iff.mp hsave
      exact ⟨(key, w), mem_entries.mpr ⟨f, hf, hname, hw⟩, rfl⟩

theorem Lawful.field?_form_encode (A : Arrangement) {f : RecordField σ} (hf : f ∈ r.fields)
    (s : σ) : (A.form (r.encode s)).field? f.name = (f.save s).map A.form := by
  obtain ⟨entries, hform, hkeys, hentries⟩ := hr.form_encode A s
  rw [hform, Json.field?]
  cases hsave : f.save s with
  | none =>
    cases hget : Dict.get? entries f.name with
    | none => rfl
    | some v =>
      obtain ⟨g, hg, hname, hsaved⟩ := hentries.mp (Dict.mem_of_get? hget)
      have heq := hr.eq_of_isNamed hg hf (isNamed_name g) (hname ▸ isNamed_name f)
      rw [heq, hsave] at hsaved
      cases hsaved
  | some w =>
    have hsaved : (f.save s).map A.form = some (A.form w) := by rw [hsave, Option.map_some]
    exact Dict.get?_of_mem hkeys (hentries.mpr ⟨f, hf, rfl, hsaved⟩)

theorem Lawful.field?_form_encode_of_not_mem (A : Arrangement) {key : String}
    (h : key ∉ r.fields.map RecordField.name) (s : σ) :
    (A.form (r.encode s)).field? key = none := by
  obtain ⟨entries, hform, _, hentries⟩ := hr.form_encode A s
  rw [hform, Json.field?]
  cases hget : Dict.get? entries key with
  | none => rfl
  | some v =>
    obtain ⟨f, hf, hname, _⟩ := hentries.mp (Dict.mem_of_get? hget)
    exact absurd (List.mem_map.mpr ⟨f, hf, hname⟩) h

/-- The encoding of a structure whose fields are restored is decoded to it, whatever the order of
its entries. -/
theorem decode_form_encode (hsettles : ∀ f ∈ r.fields, f.Settles) {s : σ}
    (h : ∀ f ∈ r.fields, f.Restored A r.initial s) : r.decode (A.form (r.encode s)) = .ok s := by
  obtain ⟨entries, hform, hkeys, hmem⟩ := hr.form_encode A s
  have hentries : ∀ e ∈ entries, ∃ f, r.field? e.1 = some f ∧ f.name = e.1 ∧ f.Holds e.2 s := by
    intro e he
    obtain ⟨f, hf, hname, hsaved⟩ := hmem.mp he
    obtain ⟨w, hsave, hw⟩ := Option.map_eq_some_iff.mp hsaved
    have hrestored := h f hf
    rw [RecordField.Restored, hsave] at hrestored
    exact ⟨f, hname ▸ hr.field?_eq hf, hname, hw ▸ hrestored⟩
  have hstored : ∀ e ∈ entries, ∃ f, r.field? e.1 = some f ∧ f.name = e.1 ∧
      ∀ s, ∃ s', f.load e.2 s = .ok s' := by
    intro e he
    obtain ⟨f, hfield, hname, hholds⟩ := hentries e he
    exact ⟨f, hfield, hname, (hsettles f (mem_of_field? hfield) hholds).2⟩
  obtain ⟨seen, t, hload, hseen⟩ :=
    loadEntries_ok r.initial hkeys (fun _ _ => List.not_mem_nil) hstored
  -- a field that no entry was stored in is left out of the encoding
  have hleft {f : RecordField σ} (hf : f ∈ r.fields) (hunseen : f.name ∉ seen) :
      f.required = false ∧ f.Agree r.initial s := by
    have hrestored := h f hf
    cases hsave : f.save s with
    | none => rwa [RecordField.Restored, hsave] at hrestored
    | some w =>
      have he := hmem.mpr ⟨f, hf, rfl, by rw [hsave, Option.map_some]⟩
      exact absurd ((hseen f.name).mpr (Or.inr (List.mem_map.mpr ⟨_, he, rfl⟩))) hunseen
  have heq : t = s := by
    refine hr.determined (fun f hf => ?_)
    rcases loadEntries_inv hr hsettles hload hf with ⟨_, e, he, hfield, hholds⟩ | ⟨hiff, hkeeps⟩
    · obtain ⟨g, hgfield, _, hgholds⟩ := hentries e he
      rw [hfield, Option.some.injEq] at hgfield
      subst hgfield
      exact ⟨e.2, hholds, hgholds⟩
    · obtain ⟨_, v, hinitial, hs⟩ := hleft hf (fun hmem => List.not_mem_nil (hiff.mp hmem))
      exact ⟨v, hkeeps v hinitial, hs⟩
  have hmissing : r.missing? seen = none := by
    refine Option.map_eq_none_iff.mpr (List.find?_eq_none.mpr (fun f hf => ?_))
    by_cases hmem : f.name ∈ seen
    · simp [hmem]
    · simp [(hleft hf hmem).1]
  rw [hform]
  simp only [decode, bind_eq_ok]
  refine ⟨(seen, t), hload, ?_⟩
  simp only [hmissing, heq]

/-- A lawful record restores what it reads from values of one more level than its fields do. -/
theorem Lawful.roundTrips_succ {n : Nat} (h : ∀ f ∈ r.fields, f.RoundTrips A n r.initial) :
    r.codec.RoundTrips A (n + 1) where
  restores {v s} hkept hdepth hdecode := by
    have hsettles : ∀ f ∈ r.fields, f.Settles := fun f hf => (h f hf).settles
    refine decode_form_encode hr hsettles (fun f hf => ?_)
    rcases decode_inv hr hsettles hdecode hf with ⟨w, hw, hholds⟩ | ⟨hrequired, hkeeps⟩
    · have hless := Json.depth_lt_of_part hw
      exact (h f hf).present (A.kept_part hkept hw) (by omega) hholds
    · exact (h f hf).absent hrequired hkeeps
  null hnull := by cases hnull

theorem Lawful.roundTrips {n : Nat} (h : ∀ f ∈ r.fields, f.RoundTrips A n r.initial) :
    r.codec.RoundTrips A n :=
  (hr.roundTrips_succ h).of_le (Nat.le_succ n)

/-- Without required fields, the initial structure is restored too. -/
theorem Lawful.restores_initial {n : Nat} (h : ∀ f ∈ r.fields, f.RoundTrips A n r.initial)
    (hrequired : ∀ f ∈ r.fields, f.required = false) :
    r.codec.decode (A.form (r.codec.encode r.initial)) = .ok r.initial :=
  decode_form_encode hr (fun f hf => (h f hf).settles)
    (fun f hf => (h f hf).absent (hrequired f hf) (fun _ hholds => hholds))

end Restoring

end Record

end UiSchema
