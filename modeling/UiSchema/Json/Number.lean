import UiSchema.Json.Basic
import UiSchema.Text.Reader

/-!
# Number literals

A literal without fraction and exponent that fits sixty-four bits is an integer, except a negative
zero. Any other literal is read through a significand of at most sixty-four bits: digits that do not
fit are dropped, and the significand is then multiplied or divided by a power of ten, each step
rounded. A literal beyond the finite range has no value.
-/

set_option autoImplicit false

namespace UiSchema.Json

structure NumberLiteral where
  negative : Bool
  whole : List Nat
  fraction : List Nat
  exponent : Option Int

namespace NumberLiteral

def significandLimit : Nat := Nat.pow 2 64 - 1

/-- Adds digits to a significand as long as it stays within the limit; what is left over is
returned beside it. -/
def accumulate (significand : Nat) : List Nat → Nat × List Nat
  | [] => (significand, [])
  | d :: rest =>
    if 10 * significand + d ≤ significandLimit then accumulate (10 * significand + d) rest
    else (significand, d :: rest)

/-- The significand that is kept of a literal and the power of ten that goes with it. -/
def scaled (l : NumberLiteral) : Nat × Int :=
  let (s, dropped) := accumulate 0 l.whole
  let (t, unread) := accumulate s l.fraction
  (t, (dropped.length : Int) - (l.fraction.length - unread.length : Nat) + l.exponent.getD 0)

def greatestPower : Nat := 308

/-- `x · 10 ^ e` in rounded steps; `none` beyond the finite range. -/
def scaleByTen : Nat → Binary64 → Int → Option Binary64
  | 0, x, _ => some x
  | fuel + 1, x, e =>
    if e.natAbs ≤ greatestPower then
      let power := Binary64.ofDecimal false 1 e.natAbs
      if 0 ≤ e then
        let y := x.mul power
        if y.isFinite then some y else none
      else some (x.div power)
    else if x.significand = 0 then some x
    else if 0 ≤ e then none
    else scaleByTen fuel (x.div (Binary64.ofDecimal false 1 greatestPower)) (e + greatestPower)

/-- The value of a literal. -/
def value? (l : NumberLiteral) : Option Json :=
  let n := Text.natOfDigits 10 l.whole
  let isInteger := l.fraction.isEmpty && l.exponent.isNone
  if isInteger && !l.negative && decide (n ≤ significandLimit) then some (.int n)
  else if isInteger && l.negative && decide (0 < n ∧ n ≤ Nat.pow 2 63) then some (.int (-(n : Int)))
  else
    let (s, e) := l.scaled
    (scaleByTen 4 (Binary64.ofInt s) e).map
      (fun x => .float (if l.negative then x.negate else x))

end NumberLiteral

end UiSchema.Json
