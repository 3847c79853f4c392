import UiSchema.Json.Basic

/-!
# Equality of values and the sign of zero

Values compare equal when they differ in the signs of floating-point zeros at most. `unsigned` drops
those signs, so that equality is equality of the values without them; in particular it is an
equivalence, and it is plain equality where no negative zero occurs.
-/

namespace UiSchema

set_option autoImplicit false

namespace Binary64

/-- The number, with zero in place of a negative zero. -/
def unsigned (x : Binary64) : Binary64 := if x.key = 0 then zero else x

theorem eq_of_key {x y : Binary64} (h : x.key = y.key) (hx : x.key ≠ 0) : x = y := by
  obtain ⟨x⟩ := x
  obtain ⟨y⟩ := y
  have hpow : Nat.pow 2 63 = 9223372036854775808 := rfl
  have hbits : x.toNat = y.toNat := by
    have hxlt : x.toNat < 18446744073709551616 := x.toNat_lt
    have hylt : y.toNat < 18446744073709551616 := y.toNat_lt
    simp only [key, isNegative, magnitudeBits, hpow, decide_eq_true_eq] at h hx
    split at h
    · split at h
      · omega
      · split at hx
        · omega
        · omega
    · split at h
      · split at hx
        · omega
        · omega
      · omega
  rw [UInt64.toNat_inj.mp hbits]

theorem sameValue_iff {x y : Binary64} : x.sameValue y = true ↔ x.unsigned = y.unsigned := by
  have hzero : zero.key = 0 := by decide
  rw [sameValue, decide_eq_true_eq]
  unfold unsigned
  constructor
  · intro h
    by_cases hx : x.key = 0
    · rw [if_pos hx, if_pos (h ▸ hx)]
    · rw [if_neg hx, if_neg (h ▸ hx), eq_of_key h hx]
  · intro h
    split at h
    · rename_i hx
      split at h
      · rename_i hy
        rw [hx, hy]
      · rw [hx, ← h, hzero]
    · split at h
      · rename_i hy
        rw [h, hy, hzero]
      · rw [h]

end Binary64

namespace Json

/-- Induction over values, with the hypothesis for every item and every field's value. -/
@[elab_as_elim]
theorem induction {motive : Json → Prop} (null : motive .null) (bool : ∀ b, motive (.bool b))
    (int : ∀ n, motive (.int n)) (float : ∀ x, motive (.float x)) (str : ∀ s, motive (.str s))
    (arr : ∀ items, (∀ v ∈ items, motive v) → motive (.arr items))
    (obj : ∀ fields : List (String × Json), (∀ e ∈ fields, motive e.2) → motive (.obj fields))
    (v : Json) : motive v := by
  refine @Json.rec motive (fun items => ∀ v ∈ items, motive v)
    (fun fields => ∀ e ∈ fields, motive e.2) (fun e => motive e.2) null bool int float str
    (fun items ih => arr items ih) (fun fields ih => obj fields ih) ?_ ?_ ?_ ?_ (fun _ _ ih => ih) v
  · intro v hv
    cases hv
  · intro first rest hfirst hrest v hv
    rcases List.mem_cons.mp hv with rfl | hv
    · exact hfirst
    · exact hrest v hv
  · intro e he
    cases he
  · intro first rest hfirst hrest e he
    rcases List.mem_cons.mp he with rfl | he
    · exact hfirst
    · exact hrest e he

mutual

/-- The value without the signs of its zeros. -/
def unsigned : Json → Json
  | .float x => .float x.unsigned
  | .arr items => .arr (unsignedItems items)
  | .obj fields => .obj (unsignedFields fields)
  | v => v

def unsignedItems : List Json → List Json
  | [] => []
  | v :: rest => unsigned v :: unsignedItems rest

def unsignedFields : List (String × Json) → List (String × Json)
  | [] => []
  | (k, v) :: rest => (k, unsigned v) :: unsignedFields rest

end

theorem equalItems_iff {xs : List Json}
    (h : ∀ x ∈ xs, ∀ y, equal x y = true ↔ x.unsigned = y.unsigned) (ys : List Json) :
    equalItems xs ys = true ↔ unsignedItems xs = unsignedItems ys := by
  induction xs generalizing ys with
  | nil => cases ys <;> simp [equalItems, unsignedItems]
  | cons x xs ih =>
    cases ys with
    | nil => simp [equalItems, unsignedItems]
    | cons y ys =>
      simp only [equalItems, unsignedItems, Bool.and_eq_true, List.cons.injEq,
        h x List.mem_cons_self y, ih (fun z hz => h z (List.mem_cons_of_mem x hz)) ys]

theorem equalFields_iff {xs : List (String × Json)}
    (h : ∀ e ∈ xs, ∀ y, equal e.2 y = true ↔ e.2.unsigned = y.unsigned)
    (ys : List (String × Json)) :
    equalFields xs ys = true ↔ unsignedFields xs = unsignedFields ys := by
  induction xs generalizing ys with
  | nil => cases ys <;> simp [equalFields, unsignedFields]
  | cons e xs ih =>
    cases ys with
    | nil => simp [equalFields, unsignedFields]
    | cons e' ys =>
      obtain ⟨k, x⟩ := e
      obtain ⟨l, y⟩ := e'
      simp only [equalFields, unsignedFields, Bool.and_eq_true, beq_iff_eq, List.cons.injEq,
        Prod.mk.injEq, h (k, x) List.mem_cons_self y,
        ih (fun z hz => h z (List.mem_cons_of_mem (k, x) hz)) ys]

theorem equal_iff (v w : Json) : v.equal w = true ↔ v.unsigned = w.unsigned := by
  induction v using Json.induction generalizing w with
  | null => cases w <;> simp [equal, unsigned]
  | bool b => cases w <;> simp [equal, unsigned]
  | int n => cases w <;> simp [equal, unsigned]
  | float x => cases w <;> simp [equal, unsigned, Binary64.sameValue_iff]
  | str s => cases w <;> simp [equal, unsigned]
  | arr items ih => cases w <;> simp [equal, unsigned, equalItems_iff ih]
  | obj fields ih => cases w <;> simp [equal, unsigned, equalFields_iff ih]

end Json

end UiSchema
