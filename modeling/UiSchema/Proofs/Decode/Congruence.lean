import Mathlib.Data.List.Forall2
import UiSchema.Decode.Record
import UiSchema.Proofs.Json.Arrangement

/-!
# Decoding looks at parts only

A record hands parts of a value to the codecs of its fields, and a part is less deep than the value.
Records whose fields differ at most in what they make of deeper values decode a value alike, and
structures are encoded alike when their fields write the same.
-/

namespace UiSchema

set_option autoImplicit false

/-- The codecs decode all values less deep than `n` alike. -/
def Codec.SameBelow {α : Type} (n : Nat) (c c' : Codec α) : Prop :=
  ∀ v : Json, v.depth < n → c'.decode v = c.decode v

/-- The fields differ at most in how they store values that are not less deep than `n`. -/
structure RecordField.SameBelow {σ : Type} (n : Nat) (f f' : RecordField σ) : Prop where
  name : f'.name = f.name
  aliases : f'.aliases = f.aliases
  required : f'.required = f.required
  load : ∀ v s, v.depth < n → f'.load v s = f.load v s

theorem Codec.SameBelow.list {α : Type} {n : Nat} {c c' : Codec α} (h : c.SameBelow n c') :
    (list c).SameBelow n (list c') := by
  intro v hv
  cases v with
  | arr items =>
    have hitems : ∀ w ∈ items, c'.decode w = c.decode w := fun w hw =>
      h w (Nat.lt_trans (Json.depth_lt_of_part (v := .arr items) hw) hv)
    simp only [Codec.list]
    clear hv
    induction items with
    | nil => rfl
    | cons w ws ih =>
      obtain ⟨hw, hws⟩ := List.forall_mem_cons.mp hitems
      simp only [decodeItems, hw, ih hws]
  | _ => rfl

namespace RecordField

variable {σ α : Type} {n : Nat} {c c' : Codec α}

theorem SameBelow.refl (f : RecordField σ) : f.SameBelow n f := ⟨rfl, rfl, rfl, fun _ _ _ => rfl⟩

theorem SameBelow.mandatory (h : c.SameBelow n c') (name : String) (set : α → σ → σ)
    (get : σ → α) :
    (mandatory name c set get).SameBelow n (.mandatory name c' set get) := by
  refine ⟨rfl, rfl, rfl, fun v s hv => ?_⟩
  simp only [RecordField.mandatory, h v hv]

theorem SameBelow.unlessEmpty {c c' : Codec (List α)} (h : c.SameBelow n c') (name : String)
    (set : List α → σ → σ) (get : σ → List α) :
    (unlessEmpty name c set get).SameBelow n (.unlessEmpty name c' set get) :=
  ⟨rfl, rfl, rfl, (SameBelow.mandatory h name set get).load⟩

end RecordField

namespace Record

variable {σ : Type} {r : Record σ} {n : Nat} {fields : List (RecordField σ)}

/-- In related lists, tests that agree on related fields find related fields. -/
theorem find?_related {R : RecordField σ → RecordField σ → Prop} {p q : RecordField σ → Bool}
    (hpq : ∀ f f', R f f' → q f' = p f) {fs fs' : List (RecordField σ)}
    (h : List.Forall₂ R fs fs') :
    (fs.find? p = none ∧ fs'.find? q = none) ∨
      ∃ f f', R f f' ∧ fs.find? p = some f ∧ fs'.find? q = some f' := by
  induction h with
  | nil => exact Or.inl ⟨rfl, rfl⟩
  | @cons f f' fs fs' hf _ ih =>
    by_cases hp : p f = true
    · exact Or.inr ⟨f, f', hf, List.find?_cons_of_pos hp,
        List.find?_cons_of_pos ((hpq f f' hf).trans hp)⟩
    · rw [List.find?_cons_of_neg hp, List.find?_cons_of_neg (hpq f f' hf ▸ hp)]
      exact ih

theorem knownKeys_congr (h : List.Forall₂ (RecordField.SameBelow n) r.fields fields) :
    knownKeys { r with fields := fields } = r.knownKeys := by
  unfold knownKeys
  dsimp only
  generalize r.fields = fs at h
  induction h with
  | nil => rfl
  | cons hf _ ih => rw [List.flatMap_cons, List.flatMap_cons, ih, hf.name, hf.aliases]

theorem missing?_congr (h : List.Forall₂ (RecordField.SameBelow n) r.fields fields)
    (seen : List String) : missing? { r with fields := fields } seen = r.missing? seen := by
  unfold missing?
  rcases find?_related (p := fun f => f.required && !seen.contains f.name)
    (q := fun f => f.required && !seen.contains f.name)
    (fun f f' hf => by rw [hf.name, hf.required]) h
    with ⟨hnone, hnone'⟩ | ⟨f, f', hf, hsome, hsome'⟩
  · rw [hnone, hnone']
  · rw [hsome, hsome', Option.map_some, Option.map_some, hf.name]

theorem loadEntries_congr (h : List.Forall₂ (RecordField.SameBelow n) r.fields fields)
    {entries : List (String × Json)} (hentries : ∀ e ∈ entries, e.2.depth < n)
    (seen : List String) (s : σ) :
    loadEntries { r with fields := fields } entries seen s = r.loadEntries entries seen s := by
  induction entries generalizing seen s with
  | nil => rfl
  | cons e rest ih =>
    obtain ⟨key, v⟩ := e
    obtain ⟨hv, hrest⟩ := List.forall_mem_cons.mp hentries
    have hnamed (f f' : RecordField σ) (hf : f.SameBelow n f') :
        f'.isNamed key = f.isNamed key := by
      rw [RecordField.isNamed, RecordField.isNamed, hf.name, hf.aliases]
    rcases find?_related hnamed h with ⟨hnone, hnone'⟩ | ⟨f, f', hf, hsome, hsome'⟩
    · simp only [loadEntries, field?, hnone, hnone', knownKeys_congr h, ih hrest]
    · simp only [loadEntries, field?, hsome, hsome', hf.name, hf.load v s hv, ih hrest]

theorem loadItems_congr {given : Nat} (hlength : fields.length = r.fields.length)
    {fs fs' : List (RecordField σ)} (h : List.Forall₂ (RecordField.SameBelow n) fs fs')
    {vs : List Json} (hvs : ∀ v ∈ vs, v.depth < n) (i : Nat) (s : σ) :
    loadItems { r with fields := fields } given fs' vs i s = r.loadItems given fs vs i s := by
  induction h generalizing vs i s with
  | nil => cases vs <;> rfl
  | cons hf _ ih =>
    cases vs with
    | nil => simp only [loadItems, hf.required, hlength, ih (List.forall_mem_nil _)]
    | cons v vs =>
      obtain ⟨hv, hvs⟩ := List.forall_mem_cons.mp hvs
      simp only [loadItems, hf.load v s hv, ih hvs]

/-- Fields that are the same below a depth decode values up to that depth alike. -/
theorem decode_congr (h : List.Forall₂ (RecordField.SameBelow n) r.fields fields) {v : Json}
    (hv : v.depth ≤ n) : decode { r with fields := fields } v = r.decode v := by
  have hparts {w : Json} (hw : Json.Part w v) : w.depth < n :=
    Nat.lt_of_lt_of_le (Json.depth_lt_of_part hw) hv
  cases v with
  | obj entries =>
    simp only [decode, loadEntries_congr h (fun e he => hparts ⟨e.1, he⟩), missing?_congr h]
  | arr items =>
    exact loadItems_congr h.length_eq.symm h (fun w hw => hparts hw) 0 r.initial
  | _ => rfl

/-- Structures that write the same in every field have the same encoding. -/
theorem encode_congr {τ : Type} {q : Record τ} {s : σ} {t : τ}
    (h : r.fields.map (fun f => (f.name, f.save s)) = q.fields.map (fun f => (f.name, f.save t))) :
    r.encode s = q.encode t := by
  have hsaved {ρ : Type} (fields : List (RecordField ρ)) (x : ρ) :
      fields.filterMap (fun f => (f.save x).map (fun v => (f.name, v))) =
        (fields.map (fun f => (f.name, f.save x))).filterMap
          (fun e => e.2.map (fun v => (e.1, v))) := by
    rw [List.filterMap_map]
    rfl
  rw [encode, encode, hsaved, hsaved, h]

end Record

end UiSchema
