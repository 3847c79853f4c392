import UiSchema.Decode.Record
import UiSchema.Proofs.Decode.Codec

/-!
# Fields of records

A structure holds a value in a field when storing it again changes nothing. A field that stores what
its codec reads under one accessor holds a value exactly when the value reads as what is there. It
is restored when what is written of it is held again, or when it is left out and the structure
agrees with the initial one in it.
-/

namespace UiSchema

set_option autoImplicit false

open Json (Arrangement)

/-- Setting and getting one place of a structure. The laws are equations of functions, so that they
hold by `rfl` for a projection and its update. -/
structure Lens {σ α : Type} (set : α → σ → σ) (get : σ → α) : Prop where
  get_set : (fun a s => get (set a s)) = fun a _ => a
  set_get : (fun s => set (get s) s) = id

section Lens

variable {σ α : Type} {set : α → σ → σ} {get : σ → α}

theorem Lens.get_set_apply (h : Lens set get) (a : α) (s : σ) : get (set a s) = a :=
  congrFun (congrFun h.get_set a) s

theorem Lens.set_get_apply (h : Lens set get) (s : σ) : set (get s) s = s :=
  congrFun h.set_get s

end Lens

namespace RecordField

variable {σ α : Type}

/-- Storing the value in the field changes nothing. -/
def Holds (f : RecordField σ) (v : Json) (s : σ) : Prop := f.load v s = .ok s

/-- Both structures hold one value in the field. -/
def Agree (f : RecordField σ) (s t : σ) : Prop := ∃ v, f.Holds v s ∧ f.Holds v t

/-- What is stored is held, and whether a value can be stored does not depend on the structure. -/
def Settles (f : RecordField σ) : Prop :=
  ∀ {v s t}, f.load v s = .ok t → f.Holds v t ∧ ∀ u, ∃ u', f.load v u = .ok u'

/-- Storing something in the second field keeps what the first one holds. -/
def Spares (f g : RecordField σ) : Prop :=
  ∀ {v w s t}, f.Holds v s → g.load w s = .ok t → f.Holds v t

structure Independent (f g : RecordField σ) : Prop where
  left : f.Spares g
  right : g.Spares f

/-- What is written of the field is held by the structure that it was written of; if nothing is
written, the initial structure has the same there. -/
def Restored (A : Arrangement) (initial : σ) (f : RecordField σ) (s : σ) : Prop :=
  match f.save s with
  | some w => f.Holds (A.form w) s
  | none => f.required = false ∧ f.Agree initial s

theorem restored_of_saved {A : Arrangement} {f : RecordField σ} {initial s : σ} {w : Json}
    (hsave : f.save s = some w) (h : f.Holds (A.form w) s) : f.Restored A initial s := by
  rw [Restored, hsave]
  exact h

theorem restored_of_left_out {A : Arrangement} {f : RecordField σ} {initial s : σ}
    (hsave : f.save s = none) (hrequired : f.required = false) (h : f.Agree initial s) :
    f.Restored A initial s := by
  rw [Restored, hsave]
  exact ⟨hrequired, h⟩

/-- A field is restored in a structure that it was stored in and, unless it is required, in one
where it was left as it is initially. -/
structure RoundTrips (A : Arrangement) (n : Nat) (initial : σ) (f : RecordField σ) : Prop where
  settles : f.Settles
  present : ∀ {v s}, A.Kept v → v.depth < n → f.Holds v s → f.Restored A initial s
  absent : ∀ {s}, f.required = false → (∀ v, f.Holds v initial → f.Holds v s) →
    f.Restored A initial s

/-- The field stores what `read` makes of a value. -/
class Stores (f : RecordField σ) {α : outParam Type}
    (read : outParam (Json → Except DecodeError α)) (set : outParam (α → σ → σ))
    (get : outParam (σ → α)) : Prop where
  load_eq : ∀ v s, f.load v s = (read v).map (fun a => set a s)

/-- Null is read as nothing. -/
def readOptional (codec : Codec α) : Json → Except DecodeError (Option α)
  | .null => .ok none
  | v => (codec.decode v).map some

section Kinds

variable {name : String} {codec : Codec α}

instance {set : α → σ → σ} {get : σ → α} :
    Stores (mandatory name codec set get) codec.decode set get :=
  ⟨fun _ _ => rfl⟩

instance {set : α → σ → σ} {get : σ → α} :
    Stores (defaulted name codec set get) codec.decode set get :=
  ⟨fun _ _ => rfl⟩

instance {codec : Codec (List α)} {set : List α → σ → σ} {get : σ → List α} :
    Stores (unlessEmpty name codec set get) codec.decode set get :=
  ⟨fun _ _ => rfl⟩

theorem load_optional (name : String) {set : Option α → σ → σ} (get : σ → Option α) (v : Json)
    (s : σ) :
    (optional name codec set get).load v s = (readOptional codec v).map (fun a => set a s) := by
  cases v with
  | null => rfl
  | _ =>
    simp only [optional, readOptional]
    cases codec.decode _ <;> rfl

instance {set : Option α → σ → σ} {get : σ → Option α} :
    Stores (optional name codec set get) (readOptional codec) set get :=
  ⟨load_optional name get⟩

instance {set : Option α → σ → σ} {get : σ → Option α} :
    Stores (nullable name codec set get) (readOptional codec) set get :=
  ⟨load_optional name get⟩

instance {f : RecordField σ} {read : Json → Except DecodeError α} {set : α → σ → σ} {get : σ → α}
    [h : Stores f read set get] (other : String) : Stores (f.withAlias other) read set get :=
  ⟨h.load_eq⟩

end Kinds

section Stores

variable {β : Type} {f g : RecordField σ} {read : Json → Except DecodeError α} {set : α → σ → σ}
variable {get : σ → α} {readOther : Json → Except DecodeError β} {setOther : β → σ → σ}
variable {getOther : σ → β}

theorem holds_iff [Stores f read set get] (h : Lens set get) {v : Json} {s : σ} :
    f.Holds v s ↔ read v = .ok (get s) := by
  rw [Holds, Stores.load_eq (f := f), map_eq_ok]
  constructor
  · rintro ⟨a, ha, hs⟩
    rw [ha, ← hs, h.get_set_apply]
  · intro hread
    exact ⟨get s, hread, h.set_get_apply s⟩

theorem settles [Stores f read set get] (h : Lens set get) : f.Settles := by
  intro v s t hload
  rw [Stores.load_eq (f := f), map_eq_ok] at hload
  obtain ⟨a, ha, rfl⟩ := hload
  refine ⟨(holds_iff h).mpr (by rw [ha, h.get_set_apply]), fun u => ⟨set a u, ?_⟩⟩
  rw [Stores.load_eq (f := f), ha]
  rfl

theorem spares [Stores f read set get] [Stores g readOther setOther getOther]
    (h : ∀ a b s, set a (setOther b s) = setOther b (set a s)) : f.Spares g := by
  intro v w s t hf hg
  rw [Holds, Stores.load_eq (f := f), map_eq_ok] at hf ⊢
  rw [Stores.load_eq (f := g), map_eq_ok] at hg
  obtain ⟨a, ha, hs⟩ := hf
  obtain ⟨b, _, rfl⟩ := hg
  exact ⟨a, ha, by rw [h, hs]⟩

/-- Fields that are stored in different places are independent. -/
theorem Independent.of_stores [Stores f read set get] [Stores g readOther setOther getOther]
    (h : ∀ a b s, set a (setOther b s) = setOther b (set a s)) : f.Independent g :=
  ⟨spares h, spares (fun b a s => (h a b s).symm)⟩

theorem Agree.get_eq [Stores f read set get] {s t : σ} (h : f.Agree s t)
    (hget : (fun a s => get (set a s)) = fun a _ => a) : get s = get t := by
  obtain ⟨v, hs, ht⟩ := h
  rw [Holds, Stores.load_eq (f := f), map_eq_ok] at hs ht
  obtain ⟨a, ha, hs⟩ := hs
  obtain ⟨b, hb, ht⟩ := ht
  rw [ha] at hb
  cases hb
  calc
    get s = get (set a s) := by rw [hs]
    _ = get (set a t) := by rw [congrFun (congrFun hget a) s, congrFun (congrFun hget a) t]
    _ = get t := by rw [ht]

end Stores

section RoundTrips

variable {A : Arrangement} {n : Nat} {initial : σ} {name : String} {codec : Codec α}

theorem RoundTrips.withAlias {f : RecordField σ} (h : f.RoundTrips A n initial) (other : String) :
    (f.withAlias other).RoundTrips A n initial :=
  ⟨h.settles, h.present, h.absent⟩

theorem readOptional_null : readOptional codec .null = .ok none := rfl

theorem readOptional_some {v : Json} {a : α} :
    readOptional codec v = .ok (some a) ↔ v ≠ .null ∧ codec.decode v = .ok a := by
  cases v with
  | null => exact ⟨nofun, fun h => absurd rfl h.1⟩
  | _ =>
    rw [readOptional, map_eq_ok]
    · simp
    · exact nofun

/-- What an optional field holds is read back from its encoding. -/
theorem readOptional_restores (hcodec : codec.RoundTrips A n) {v : Json} (hkept : A.Kept v)
    (hdepth : v.depth < n) {a : α} (h : readOptional codec v = .ok (some a)) :
    readOptional codec (A.form (codec.encode a)) = .ok (some a) := by
  obtain ⟨hne, hdecode⟩ := readOptional_some.mp h
  have hrestored := hcodec.restores hkept hdepth hdecode
  refine readOptional_some.mpr ⟨fun hnull => hne ?_, hrestored⟩
  rw [hnull] at hrestored
  exact hcodec.null hrestored hdecode

theorem roundTrips_mandatory {set : α → σ → σ} {get : σ → α} (hcodec : codec.RoundTrips A n)
    (hlens : Lens set get) :
    (mandatory name codec set get).RoundTrips A n initial where
  settles := settles hlens
  present hkept hdepth h :=
    (holds_iff hlens).mpr (hcodec.restores hkept hdepth ((holds_iff hlens).mp h))
  absent h := by cases h

theorem roundTrips_defaulted {set : α → σ → σ} {get : σ → α} (hcodec : codec.RoundTrips A n)
    (hinitial : codec.decode (A.form (codec.encode (get initial))) = .ok (get initial))
    (hlens : Lens set get) :
    (defaulted name codec set get).RoundTrips A n initial where
  settles := settles hlens
  present hkept hdepth h :=
    (holds_iff hlens).mpr (hcodec.restores hkept hdepth ((holds_iff hlens).mp h))
  absent {s} _ h := by
    have hholds := h _ ((holds_iff hlens).mpr hinitial)
    have hread : codec.decode _ = .ok (get s) := (holds_iff hlens).mp hholds
    rw [hinitial, Except.ok.injEq] at hread
    rw [hread] at hholds
    exact hholds

theorem roundTrips_unlessEmpty {codec : Codec (List α)} {set : List α → σ → σ}
    {get : σ → List α} (hcodec : codec.RoundTrips A n) (hempty : ∃ v, codec.decode v = .ok [])
    (hinitial : get initial = []) (hlens : Lens set get) :
    (unlessEmpty name codec set get).RoundTrips A n initial := by
  obtain ⟨empty, hempty⟩ := hempty
  have hholds {s : σ} (hs : get s = []) : (unlessEmpty name codec set get).Holds empty s :=
    (holds_iff hlens).mpr (hs ▸ hempty)
  have hnil {s : σ} (hs : get s = []) :
      (unlessEmpty name codec set get).Restored A initial s :=
    restored_of_left_out (by simp [unlessEmpty, hs]) rfl ⟨empty, hholds hinitial, hholds hs⟩
  refine ⟨settles hlens, fun {v s} hkept hdepth h => ?_, fun {s} _ h => hnil ?_⟩
  · have hread : codec.decode v = .ok (get s) := (holds_iff hlens).mp h
    by_cases hs : get s = []
    · exact hnil hs
    · exact restored_of_saved (by simp [unlessEmpty, hs])
        ((holds_iff hlens).mpr (hcodec.restores hkept hdepth hread))
  · have hread : codec.decode empty = .ok (get s) :=
      (holds_iff hlens).mp (h empty (hholds hinitial))
    rw [hempty, Except.ok.injEq] at hread
    exact hread.symm

section Absent

variable {set : Option α → σ → σ} {get : σ → Option α}

/-- A field that reads null as nothing is restored if it writes what is there. -/
theorem roundTrips_of_readOptional {f : RecordField σ} [Stores f (readOptional codec) set get]
    (hlens : Lens set get) (hcodec : codec.RoundTrips A n) (hinitial : get initial = none)
    (hnone : ∀ {s}, get s = none → f.Restored A initial s)
    (hsome : ∀ {s a}, get s = some a → f.save s = some (codec.encode a)) :
    f.RoundTrips A n initial := by
  refine ⟨settles hlens, fun {v s} hkept hdepth h => ?_, fun {s} _ h => hnone ?_⟩
  · have hread : readOptional codec v = .ok (get s) := (holds_iff hlens).mp h
    cases hs : get s with
    | none => exact hnone hs
    | some a =>
      rw [hs] at hread
      refine restored_of_saved (hsome hs) ((holds_iff hlens).mpr ?_)
      rw [hs]
      exact readOptional_restores hcodec hkept hdepth hread
  · have hread : readOptional codec .null = .ok (get s) :=
      (holds_iff hlens).mp (h .null ((holds_iff hlens).mpr (hinitial ▸ readOptional_null)))
    rw [readOptional_null, Except.ok.injEq] at hread
    exact hread.symm

theorem roundTrips_optional (hcodec : codec.RoundTrips A n)
    (hinitial : get initial = none) (hlens : Lens set get) :
    (optional name codec set get).RoundTrips A n initial := by
  have hnull {s : σ} (hs : get s = none) : (optional name codec set get).Holds .null s :=
    (holds_iff hlens).mpr (hs ▸ readOptional_null)
  refine roundTrips_of_readOptional hlens hcodec hinitial (fun hs => ?_) (fun hs => ?_)
  · exact restored_of_left_out (by simp [optional, hs]) rfl ⟨.null, hnull hinitial, hnull hs⟩
  · simp [optional, hs]

theorem roundTrips_nullable (hcodec : codec.RoundTrips A n)
    (hinitial : get initial = none) (hlens : Lens set get) :
    (nullable name codec set get).RoundTrips A n initial := by
  refine roundTrips_of_readOptional hlens hcodec hinitial (fun {s} hs => ?_) (fun hs => ?_)
  · have hsave : (nullable name codec set get).save s = some .null := by simp [nullable, hs]
    refine restored_of_saved hsave ((holds_iff hlens).mpr ?_)
    rw [A.form_scalar rfl, hs, readOptional_null]
  · simp [nullable, hs]

end Absent

end RoundTrips

end RecordField

end UiSchema
