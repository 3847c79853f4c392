/-!
# Binary floating-point numbers of sixty-four bits

A number is its bits. A finite one is read exactly as `significand · 2 ^ exponent` with a sign, and
every operation is the exact result on those integers, rounded once to the nearest number, ties to
the even significand. Two orders are kept apart: `key` orders finite values as numbers, so the two
zeros are one, and `totalKey` tells all bit patterns apart.
-/

set_option autoImplicit false

namespace UiSchema

structure Binary64 where
  bits : UInt64
deriving DecidableEq

namespace Binary64

def zero : Binary64 := ⟨0⟩

/-- The bits below the sign bit, as a natural number. -/
def magnitudeBits (x : Binary64) : Nat := x.bits.toNat % Nat.pow 2 63

def isNegative (x : Binary64) : Bool := decide (Nat.pow 2 63 ≤ x.bits.toNat)

def exponentField (x : Binary64) : Nat := x.magnitudeBits / Nat.pow 2 52

def fractionField (x : Binary64) : Nat := x.magnitudeBits % Nat.pow 2 52

def isFinite (x : Binary64) : Bool := decide (x.exponentField < 2047)

/-- The integer significand; a number with a zero exponent field has no leading bit. -/
def significand (x : Binary64) : Nat :=
  if x.exponentField = 0 then x.fractionField else Nat.pow 2 52 + x.fractionField

/-- The power of two that the significand counts. -/
def exponent (x : Binary64) : Int := (max x.exponentField 1 : Nat) - 1075

/-- The number with the given sign and magnitude bits. -/
def ofSign (negative : Bool) (magnitude : Nat) : Binary64 :=
  ⟨UInt64.ofNat (if negative then Nat.pow 2 63 + magnitude else magnitude)⟩

def negate (x : Binary64) : Binary64 := ofSign (!x.isNegative) x.magnitudeBits

def infinityBits : Nat := 2047 * Nat.pow 2 52

/-- The natural number nearest to `num / den`, a half going to the even one. -/
def roundedQuotient (num den : Nat) : Nat :=
  let q := num / den
  let r := num % den
  if 2 * r < den then q
  else if den < 2 * r then q + 1
  else if q % 2 = 0 then q else q + 1

/-- The greatest `k` with `2 ^ k ≤ num / den`, for positive arguments. -/
def binaryLog (num den : Nat) : Int :=
  let k : Int := (num.log2 : Int) - den.log2
  if den * Nat.pow 2 k.toNat ≤ num * Nat.pow 2 (-k).toNat then k else k - 1

/-- The number nearest to `± num / den`, ties to even; beyond the finite range it is infinite. -/
def ofRatio (negative : Bool) (num den : Nat) : Binary64 :=
  if num = 0 then ofSign negative 0
  else
    let e : Int := max (binaryLog num den - 52) (-1074)
    let q := roundedQuotient (num * Nat.pow 2 (-e).toNat) (den * Nat.pow 2 e.toNat)
    ofSign negative (min ((e + 1074).toNat * Nat.pow 2 52 + q) infinityBits)

def ofInt (n : Int) : Binary64 := ofRatio (decide (n < 0)) n.natAbs 1

/-- The number nearest to `± digits · 10 ^ exponent`. Exponents far outside the range of the format
are settled without computing the power. -/
def ofDecimal (negative : Bool) (digits : Nat) (exponent : Int) : Binary64 :=
  if digits = 0 ∨ exponent + digits.log2 < -400 then ofSign negative 0
  else if 400 < exponent then ofSign negative infinityBits
  else ofRatio negative (digits * Nat.pow 10 exponent.toNat) (Nat.pow 10 (-exponent).toNat)

/-- The product of two finite numbers. -/
def mul (x y : Binary64) : Binary64 :=
  let e := x.exponent + y.exponent
  ofRatio (x.isNegative != y.isNegative) (x.significand * y.significand * Nat.pow 2 e.toNat)
    (Nat.pow 2 (-e).toNat)

/-- The quotient of two finite numbers, the divisor not zero. -/
def div (x y : Binary64) : Binary64 :=
  let e := x.exponent - y.exponent
  ofRatio (x.isNegative != y.isNegative) (x.significand * Nat.pow 2 e.toNat)
    (y.significand * Nat.pow 2 (-e).toNat)

/-- Orders finite numbers by value. -/
def key (x : Binary64) : Int :=
  if x.isNegative then -(x.magnitudeBits : Int) else x.magnitudeBits

/-- Orders all numbers, a negative zero below a positive one. -/
def totalKey (x : Binary64) : Int :=
  if x.isNegative then -(x.magnitudeBits : Int) - 1 else x.magnitudeBits

/-- Equality of values: the two zeros are equal. -/
def sameValue (x y : Binary64) : Bool := decide (x.key = y.key)

def lt (x y : Binary64) : Bool := decide (x.key < y.key)

end Binary64

end UiSchema
