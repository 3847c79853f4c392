import UiSchema.Node.Record
import UiSchema.Proofs.Dict
import UiSchema.Proofs.Json.Equality

/-!
# Arrangements of the entries of objects

A value that was written may be read back with the entries of its objects in another order, as
`sorted` puts them. An arrangement does that throughout a value and keeps what it is told to keep;
the parts of a value are its items or the values of its entries, and they are less deep.
-/

namespace UiSchema.Json

set_option autoImplicit false

/-- The first value is an item of the second, or stands under one of its keys. -/
def Part (w : Json) : Json → Prop
  | .arr items => w ∈ items
  | .obj fields => ∃ key, (key, w) ∈ fields
  | _ => False

theorem depth_le_depthItems {w : Json} {items : List Json} (h : w ∈ items) :
    w.depth ≤ depthItems items := by
  induction items with
  | nil => cases h
  | cons first rest ih =>
    rw [depthItems]
    rcases List.mem_cons.mp h with rfl | h
    · exact Nat.le_max_left _ _
    · exact Nat.le_trans (ih h) (Nat.le_max_right _ _)

theorem depth_le_depthFields {w : Json} {key : String} {fields : List (String × Json)}
    (h : (key, w) ∈ fields) : w.depth ≤ depthFields fields := by
  induction fields with
  | nil => cases h
  | cons first rest ih =>
    obtain ⟨k, v⟩ := first
    rw [depthFields]
    rcases List.mem_cons.mp h with heq | h
    · cases heq
      exact Nat.le_max_left _ _
    · exact Nat.le_trans (ih h) (Nat.le_max_right _ _)

theorem depth_lt_of_part {v w : Json} (h : Part w v) : w.depth < v.depth := by
  cases v with
  | arr items =>
    rw [depth]
    exact Nat.lt_succ_of_le (depth_le_depthItems h)
  | obj fields =>
    obtain ⟨key, h⟩ := h
    rw [depth]
    exact Nat.lt_succ_of_le (depth_le_depthFields h)
  | _ => exact h.elim

/-- A way to order the entries of all objects in a value. -/
structure Arrangement where
  form : Json → Json
  /-- values in which the order stays as it is -/
  Kept : Json → Prop
  form_scalar : ∀ {v}, v.depth = 0 → form v = v
  form_arr : ∀ items, form (.arr items) = .arr (items.map form)
  form_obj : ∀ {fields}, (Dict.keys fields).Nodup →
    ∃ fields', form (.obj fields) = .obj fields' ∧ fields'.Perm (Dict.mapValues form fields)
  form_like : ∀ {fields d}, Kept (.obj fields) → Dict.keys d = Dict.keys fields →
    form (.obj d) = .obj (Dict.mapValues form d)
  form_kept : ∀ {v}, Kept v → form v = v
  kept_part : ∀ {v w}, Kept v → Part w v → Kept w

theorem sorted_of_scalar {v : Json} (h : v.depth = 0) : v.sorted = v := by
  cases v with
  | arr items => cases h
  | obj fields => cases h
  | _ => rfl

theorem sortedItems_eq_map (items : List Json) : sortedItems items = items.map sorted := by
  induction items with
  | nil => rfl
  | cons first rest ih => rw [sortedItems, ih, List.map_cons]

theorem sortedFields_perm {fields : List (String × Json)} (h : (Dict.keys fields).Nodup) :
    (sortedFields fields).Perm (Dict.mapValues sorted fields) := by
  induction fields with
  | nil => exact .refl _
  | cons first rest ih =>
    obtain ⟨k, v⟩ := first
    obtain ⟨hk, hrest⟩ := List.nodup_cons.mp h
    have hperm := ih hrest
    have hnew : k ∉ Dict.keys (sortedFields rest) := by
      rwa [Dict.keys, (hperm.map Prod.fst).mem_iff, ← Dict.keys, Dict.keys_mapValues]
    have hcontains : Dict.contains (sortedFields rest) k = false := by
      rw [Dict.contains, Dict.get?_eq_none_of_not_mem hnew, Option.isSome_none]
    rw [sortedFields, hcontains]
    exact (Dict.insert_perm hnew _).trans (hperm.cons _)

theorem sortedFields_of_ascending {fields : List (String × Json)} (h : Dict.Ascending fields) :
    sortedFields fields = Dict.mapValues sorted fields := by
  induction fields with
  | nil => rfl
  | cons first rest ih =>
    obtain ⟨k, v⟩ := first
    obtain ⟨hfirst, hrest⟩ := List.pairwise_cons.mp h
    have hlt : ∀ entry ∈ Dict.mapValues sorted rest, k < entry.1 := by
      intro entry hentry
      obtain ⟨e, he, rfl⟩ := List.mem_map.mp hentry
      exact hfirst e he
    rw [sortedFields, ih hrest, Dict.contains, Dict.get?_of_forall_lt hlt,
      Dict.insert_of_forall_lt hlt]
    rfl

theorem canonicalItems_iff {items : List Json} :
    CanonicalItems items ↔ ∀ v ∈ items, v.Canonical := by
  induction items with
  | nil => simp [CanonicalItems]
  | cons first rest ih => simp [CanonicalItems, ih]

theorem canonicalFields_iff {fields : List (String × Json)} :
    CanonicalFields fields ↔ ∀ e ∈ fields, e.2.Canonical := by
  induction fields with
  | nil => simp [CanonicalFields]
  | cons first rest ih =>
    obtain ⟨k, v⟩ := first
    simp [CanonicalFields, ih]

theorem Canonical.part {v w : Json} (h : v.Canonical) (hw : Part w v) : w.Canonical := by
  cases v with
  | arr items =>
    rw [Canonical] at h
    exact canonicalItems_iff.mp h w hw
  | obj fields =>
    rw [Canonical] at h
    obtain ⟨key, hw⟩ := hw
    exact canonicalFields_iff.mp h.2 (key, w) hw
  | _ => exact hw.elim

theorem sorted_of_canonical {v : Json} (h : v.Canonical) : v.sorted = v := by
  induction v using Json.induction with
  | arr items ih =>
    rw [sorted, sortedItems_eq_map]
    have hitems : items.map sorted = items.map id :=
      List.map_congr_left (fun w hw => ih w hw (h.part hw))
    rw [hitems, List.map_id]
  | obj fields ih =>
    have hascending : Dict.Ascending fields := by
      rw [Canonical] at h
      exact h.1
    rw [sorted, sortedFields_of_ascending hascending]
    have hfields : Dict.mapValues sorted fields = fields.map id :=
      List.map_congr_left (fun e he => by rw [ih e he (h.part ⟨e.1, he⟩), id])
    rw [hfields, List.map_id]
  | _ => exact sorted_of_scalar rfl

namespace Arrangement

/-- The entries as they were written. -/
def asWritten : Arrangement where
  form := id
  Kept _ := True
  form_scalar _ := rfl
  form_arr items := by rw [List.map_id, id]
  form_obj {fields} _ := ⟨fields, rfl, by rw [Dict.mapValues]; simp⟩
  form_like _ _ := by simp [Dict.mapValues]
  form_kept _ := rfl
  kept_part _ _ := trivial

/-- The entries by ascending keys. -/
def ascending : Arrangement where
  form := sorted
  Kept := Canonical
  form_scalar := sorted_of_scalar
  form_arr items := by rw [sorted, sortedItems_eq_map]
  form_obj {fields} h := ⟨_, by rw [sorted], sortedFields_perm h⟩
  form_like {fields d} h hkeys := by
    rw [Canonical] at h
    rw [sorted, sortedFields_of_ascending]
    rw [Dict.ascending_iff_keys, hkeys, ← Dict.ascending_iff_keys]
    exact h.1
  form_kept := sorted_of_canonical
  kept_part := Canonical.part

end Arrangement

end UiSchema.Json
