import Mathlib.Data.List.Forall2
import UiSchema.Proofs.Json.Arrangement

/-!
# Codecs that restore what they read

A codec restores what it decoded: written and arranged, the result is decoded to itself again. The
statement is about values up to a depth, as nodes are only known to be restored from their parts
upwards.
-/

namespace UiSchema

set_option autoImplicit false

section Results

variable {ε ε' α β : Type} {x : Except ε α}

theorem bind_eq_ok {f : α → Except ε β} {b : β} :
    (x >>= f) = .ok b ↔ ∃ a, x = .ok a ∧ f a = .ok b := by
  cases x with
  | error e => simp [bind, Except.bind]
  | ok a => simp [bind, Except.bind]

theorem map_eq_ok {f : α → β} {b : β} : x.map f = .ok b ↔ ∃ a, x = .ok a ∧ f a = b := by
  cases x with
  | error e => simp [Except.map]
  | ok a => simp [Except.map]

theorem mapError_eq_ok {f : ε → ε'} {a : α} : x.mapError f = .ok a ↔ x = .ok a := by
  cases x with
  | error e => exact ⟨nofun, nofun⟩
  | ok b =>
    have hmap : (Except.ok b : Except ε α).mapError f = .ok b := rfl
    rw [hmap, Except.ok.injEq, Except.ok.injEq]

end Results

open Json (Arrangement)

namespace Codec

variable {α : Type} {A : Arrangement} {n : Nat} {c : Codec α}

/-- What is decoded from a value less deep than `n` is restored from its arranged encoding, and a
codec that reads something from null reads it from null alone. -/
structure RoundTrips (A : Arrangement) (n : Nat) (c : Codec α) : Prop where
  restores : ∀ {v a}, A.Kept v → v.depth < n → c.decode v = .ok a →
    c.decode (A.form (c.encode a)) = .ok a
  null : ∀ {v a}, c.decode .null = .ok a → c.decode v = .ok a → v = .null

theorem RoundTrips.of_le {m : Nat} (h : c.RoundTrips A m) (hn : n ≤ m) : c.RoundTrips A n :=
  ⟨fun hkept hdepth => h.restores hkept (Nat.lt_of_lt_of_le hdepth hn), h.null⟩

/-- A codec that writes scalars is restored by its own encoding, in every arrangement. -/
theorem RoundTrips.of_scalar (hscalar : ∀ a, (c.encode a).depth = 0)
    (hrestores : ∀ v a, c.decode v = .ok a → c.decode (c.encode a) = .ok a)
    (hnull : ∀ a, c.decode .null ≠ .ok a) : c.RoundTrips A n where
  restores {v a} _ _ h := by
    rw [A.form_scalar (hscalar a)]
    exact hrestores v a h
  null h := absurd h (hnull _)

theorem restores_scalar {a : α} (hscalar : (c.encode a).depth = 0)
    (h : c.decode (c.encode a) = .ok a) : c.decode (A.form (c.encode a)) = .ok a := by
  rw [A.form_scalar hscalar, h]

theorem roundTrips_raw : raw.RoundTrips A n where
  restores {v a} hkept _ h := by
    cases h
    exact congrArg Except.ok (A.form_kept hkept)
  null {v a} hnull h := by
    cases hnull
    cases h
    rfl

theorem roundTrips_text : text.RoundTrips A n :=
  .of_scalar (fun _ => rfl) (fun _ _ _ => rfl) nofun

theorem roundTrips_bool : bool.RoundTrips A n :=
  .of_scalar (fun _ => rfl) (fun _ _ _ => rfl) nofun

theorem roundTrips_number : number.RoundTrips A n :=
  .of_scalar (fun _ => rfl) (fun _ _ _ => rfl) nofun

section Range

variable {wanted : Wanted} {low high : Int}

theorem inRange_eq_ok {v : Json} {k : Int} :
    (inRange wanted low high).decode v = .ok k ↔ v = .int k ∧ low ≤ k ∧ k < high := by
  cases v with
  | int m =>
    simp only [inRange]
    split
    · rename_i hm
      constructor
      · intro h
        cases h
        exact ⟨rfl, hm⟩
      · rintro ⟨h, _⟩
        cases h
        rfl
    · rename_i hm
      constructor
      · intro h
        cases h
      · rintro ⟨h, hk⟩
        cases h
        exact absurd hk hm
  | _ => exact ⟨nofun, nofun⟩

theorem roundTrips_inRange : (inRange wanted low high).RoundTrips A n :=
  .of_scalar (fun _ => rfl)
    (fun _ _ h => inRange_eq_ok.mpr ⟨rfl, (inRange_eq_ok.mp h).2⟩) nofun

theorem roundTrips_int32 : int32.RoundTrips A n := roundTrips_inRange

theorem roundTrips_natural (bits : Nat) : (natural bits).RoundTrips A n := by
  refine .of_scalar (fun _ => rfl) (fun v a h => ?_) nofun
  obtain ⟨k, hk, rfl⟩ := map_eq_ok.mp h
  obtain ⟨_, hrange⟩ := inRange_eq_ok.mp hk
  have hnat : (k.toNat : Int) = k := Int.toNat_of_nonneg hrange.1
  refine map_eq_ok.mpr ⟨k, inRange_eq_ok.mpr ⟨?_, hrange⟩, rfl⟩
  rw [← hnat]
  rfl

end Range

theorem roundTrips_properties : properties.RoundTrips A n where
  restores {v a} hkept _ h := by
    cases v with
    | obj fields =>
      cases h
      rw [properties, A.form_kept hkept]
    | _ => cases h
  null h := by cases h

/-- Distinct names are read back. -/
theorem roundTrips_variant {names : List (String × α)} {name : α → String}
    (hnames : ∀ a, names.lookup (name a) = some a) : (variant names name).RoundTrips A n := by
  refine .of_scalar (fun _ => rfl) (fun v a _ => ?_) nofun
  simp only [variant, hnames]

section Lists

variable {decode : Json → Except DecodeError α} {items : List Json} {as : List α}

theorem exists_of_mem_decodeItems (h : decodeItems decode items = .ok as) :
    ∀ a ∈ as, ∃ v ∈ items, decode v = .ok a := by
  induction items generalizing as with
  | nil =>
    cases h
    exact List.forall_mem_nil _
  | cons v vs ih =>
    simp only [decodeItems, bind_eq_ok, Except.ok.injEq] at h
    obtain ⟨a, ha, rest, hrest, rfl⟩ := h
    refine List.forall_mem_cons.mpr ⟨⟨v, List.mem_cons_self, ha⟩, fun b hb => ?_⟩
    obtain ⟨w, hw, hdecode⟩ := ih hrest b hb
    exact ⟨w, List.mem_cons_of_mem v hw, hdecode⟩

theorem decodeItems_eq_ok :
    decodeItems decode items = .ok as ↔ List.Forall₂ (fun v a => decode v = .ok a) items as := by
  induction items generalizing as with
  | nil =>
    rw [decodeItems, List.forall₂_nil_left_iff, Except.ok.injEq, eq_comm]
  | cons v rest ih =>
    simp only [decodeItems, bind_eq_ok, Except.ok.injEq, List.forall₂_cons_left_iff, ih]
    constructor
    · rintro ⟨a, ha, as, has, rfl⟩
      exact ⟨a, as, ha, has, rfl⟩
    · rintro ⟨a, as, ha, has, rfl⟩
      exact ⟨a, ha, as, has, rfl⟩

theorem exists_of_mem_list {c : Codec α} (h : (list c).decode (.arr items) = .ok as) {v : Json}
    (hv : v ∈ items) : ∃ a, c.decode v = .ok a := by
  have hread : List.Forall₂ (fun v a => c.decode v = .ok a) items as := decodeItems_eq_ok.mp h
  induction hread with
  | nil => cases hv
  | cons hfirst hrest ih =>
    rcases List.mem_cons.mp hv with rfl | hv
    · exact ⟨_, hfirst⟩
    · exact ih (decodeItems_eq_ok.mpr hrest) hv

theorem decodeItems_map {f : α → Json} (h : ∀ a ∈ as, decode (f a) = .ok a) :
    decodeItems decode (as.map f) = .ok as := by
  induction as with
  | nil => rfl
  | cons a rest ih =>
    obtain ⟨ha, hrest⟩ := List.forall_mem_cons.mp h
    simp only [List.map_cons, decodeItems, bind_eq_ok, Except.ok.injEq]
    exact ⟨a, ha, rest, ih hrest, rfl⟩

theorem RoundTrips.list (h : c.RoundTrips A n) : (list c).RoundTrips A n where
  restores {v as} hkept hdepth hdecode := by
    cases v with
    | arr items =>
      rw [Codec.list, A.form_arr, List.map_map]
      refine decodeItems_map (fun a ha => ?_)
      obtain ⟨w, hw, ha⟩ := exists_of_mem_decodeItems hdecode a ha
      have hpart : Json.Part w (.arr items) := hw
      exact h.restores (A.kept_part hkept hpart)
        (Nat.lt_trans (Json.depth_lt_of_part hpart) hdepth) ha
    | _ => cases hdecode
  null h := by cases h

theorem list_restores_nil : (list c).decode (A.form ((list c).encode [])) = .ok [] := by
  rw [Codec.list, A.form_arr]
  rfl

end Lists

section Entries

variable {decode : Json → Except DecodeError α} {fields : Dict Json} {d : Dict α}

theorem keys_decodeEntries (h : decodeEntries decode fields = .ok d) :
    Dict.keys d = Dict.keys fields := by
  induction fields generalizing d with
  | nil =>
    cases h
    rfl
  | cons e rest ih =>
    simp only [decodeEntries, bind_eq_ok, Except.ok.injEq] at h
    obtain ⟨a, _, entries, hentries, rfl⟩ := h
    exact congrArg (e.1 :: ·) (ih hentries)

theorem exists_of_mem_decodeEntries (h : decodeEntries decode fields = .ok d) :
    ∀ e ∈ d, ∃ v, (e.1, v) ∈ fields ∧ decode v = .ok e.2 := by
  induction fields generalizing d with
  | nil =>
    cases h
    exact List.forall_mem_nil _
  | cons first rest ih =>
    obtain ⟨k, v⟩ := first
    simp only [decodeEntries, bind_eq_ok, Except.ok.injEq] at h
    obtain ⟨a, ha, entries, hentries, rfl⟩ := h
    refine List.forall_mem_cons.mpr ⟨⟨v, List.mem_cons_self, ha⟩, fun e he => ?_⟩
    obtain ⟨w, hw, hdecode⟩ := ih hentries e he
    exact ⟨w, List.mem_cons_of_mem _ hw, hdecode⟩

theorem decodeEntries_mapValues {f : α → Json} (h : ∀ e ∈ d, decode (f e.2) = .ok e.2) :
    decodeEntries decode (Dict.mapValues f d) = .ok d := by
  induction d with
  | nil => rfl
  | cons e rest ih =>
    obtain ⟨he, hrest⟩ := List.forall_mem_cons.mp h
    simp only [Dict.mapValues, List.map_cons, decodeEntries, bind_eq_ok, Except.ok.injEq]
    exact ⟨e.2, he, rest, ih hrest, rfl⟩

theorem RoundTrips.dict (h : c.RoundTrips A n) : (dict c).RoundTrips A n where
  restores {v d} hkept hdepth hdecode := by
    cases v with
    | obj fields =>
      have hkeys : Dict.keys (Dict.mapValues c.encode d) = Dict.keys fields := by
        rw [Dict.keys_mapValues, keys_decodeEntries hdecode]
      rw [Codec.dict, A.form_like hkept hkeys, Dict.mapValues, Dict.mapValues, List.map_map]
      refine decodeEntries_mapValues (f := fun a => A.form (c.encode a)) (fun e he => ?_)
      obtain ⟨w, hw, he⟩ := exists_of_mem_decodeEntries hdecode e he
      have hpart : Json.Part w (.obj fields) := ⟨e.1, hw⟩
      exact h.restores (A.kept_part hkept hpart)
        (Nat.lt_trans (Json.depth_lt_of_part hpart) hdepth) he
    | _ => cases hdecode
  null h := by cases h

theorem dict_restores_nil : (dict c).decode (A.form ((dict c).encode [])) = .ok [] := by
  have hnodup : (Dict.keys ([] : Dict Json)).Nodup := List.nodup_nil
  obtain ⟨entries, hform, hperm⟩ := A.form_obj hnodup
  have hencode : (dict c).encode [] = .obj [] := rfl
  rw [hencode, hform, List.Perm.eq_nil hperm]
  rfl

end Entries

end Codec

end UiSchema
