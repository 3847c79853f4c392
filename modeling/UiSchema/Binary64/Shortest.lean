import UiSchema.Binary64.Basic

/-!
# The shortest decimal that reads back

A finite number stands for the interval of reals that round to it. `shortest` chooses, of the
decimals in that interval with the fewest digits, the one nearest to the number; `DecimalStyle`
holds what is left to decide when it is written.
-/

set_option autoImplicit false

namespace UiSchema

/-- The value `digits · 10 ^ exponent`. -/
structure Decimal where
  digits : Nat
  exponent : Int
deriving DecidableEq

namespace Binary64

/-- The exact decimal of a finite number's magnitude. -/
def exactDecimal (x : Binary64) : Decimal :=
  if 0 ≤ x.exponent then ⟨x.significand * Nat.pow 2 x.exponent.toNat, 0⟩
  else ⟨x.significand * Nat.pow 5 (-x.exponent).toNat, x.exponent⟩

/-- The gap to the neighbour below is half the gap to the neighbour above. -/
def narrowBelow (x : Binary64) : Bool := x.fractionField == 0 && decide (1 < x.exponentField)

/-- Compares `a · 10 ^ i` with `b · 2 ^ j`. -/
def compareScaled (a : Nat) (i : Int) (b : Nat) (j : Int) : Ordering :=
  compare (a * Nat.pow 10 i.toNat * Nat.pow 2 (-j).toNat) (b * Nat.pow 2 j.toNat * Nat.pow 10 (-i).toNat)

/-- The decimal lies among the reals that round to the magnitude of `x`; the ends of the interval
belong to it when the significand is even. -/
def readsBack (x : Binary64) (d : Decimal) : Bool :=
  let low := 4 * x.significand - (if x.narrowBelow then 1 else 2)
  let high := 4 * x.significand + 2
  let closed := x.significand % 2 == 0
  let atLow := compareScaled d.digits d.exponent low (x.exponent - 2)
  let atHigh := compareScaled d.digits d.exponent high (x.exponent - 2)
  (atLow == .gt || (closed && atLow == .eq)) && (atHigh == .lt || (closed && atHigh == .eq))

/-- Which of two equally near decimals is taken. -/
inductive Tie where
  | toEven
  | up
deriving DecidableEq

def decimalWidth (n : Nat) : Nat := (Nat.toDigits 10 n).length

/-- The nearest decimal of at most `width` digits that reads back, given the exact decimal `d`. -/
def atWidth? (x : Binary64) (d : Decimal) (tie : Tie) (width : Nat) : Option Decimal :=
  let drop := decimalWidth d.digits - width
  let unit := Nat.pow 10 drop
  let below : Decimal := ⟨d.digits / unit, d.exponent + drop⟩
  let above : Decimal := ⟨d.digits / unit + 1, d.exponent + drop⟩
  let rest := d.digits % unit
  if rest = 0 then some below
  else
    match readsBack x below, readsBack x above with
    | true, false => some below
    | false, true => some above
    | false, false => none
    | true, true =>
      if 2 * rest < unit then some below
      else if unit < 2 * rest then some above
      else match tie with
        | .up => some above
        | .toEven => if below.digits % 2 = 0 then some below else some above

/-- Moves trailing zeros of the digits into the exponent. -/
def stripZeros : Nat → Decimal → Decimal
  | 0, d => d
  | fuel + 1, d =>
    if d.digits ≠ 0 ∧ d.digits % 10 = 0 then stripZeros fuel ⟨d.digits / 10, d.exponent + 1⟩ else d

/-- The shortest decimal that reads back as the magnitude of a finite number. -/
def shortest (x : Binary64) (tie : Tie) : Decimal :=
  let d := x.exactDecimal
  let found := (List.range 17).findSome? (fun n => atWidth? x d tie (n + 1))
  let chosen := found.getD d
  stripZeros (decimalWidth chosen.digits) chosen

end Binary64

/-- How a chosen decimal is laid out: the leading-digit exponents that are written without an
exponent (`none`: all of them), whether an integral value keeps a `.0`, and how a tie is broken. -/
structure DecimalStyle where
  plainRange : Option (Int × Int)
  pointZero : Bool
  tie : Binary64.Tie

namespace DecimalStyle

/-- Digits with the point after the first `place` of them. -/
def plainText (style : DecimalStyle) (digits : List Char) (place : Int) : List Char :=
  if place ≤ 0 then '0' :: '.' :: (List.replicate (-place).toNat '0' ++ digits)
  else if digits.length ≤ place.toNat then
    digits ++ List.replicate (place.toNat - digits.length) '0' ++
      (if style.pointZero then ['.', '0'] else [])
  else digits.take place.toNat ++ '.' :: digits.drop place.toNat

/-- One digit, the others behind a point, and a signed exponent where it is positive. -/
def scientificText (digits : List Char) (leading : Int) : List Char :=
  let mantissa := match digits with
    | [] => []
    | [c] => [c]
    | c :: rest => c :: '.' :: rest
  mantissa ++ 'e' :: ((if 0 ≤ leading then '+' else '-') :: (Nat.toDigits 10 leading.natAbs))

/-- The text of a finite number. -/
def text (style : DecimalStyle) (x : Binary64) : String :=
  let d := x.shortest style.tie
  let digits := Nat.toDigits 10 d.digits
  let place : Int := digits.length + d.exponent
  let body :=
    if d.digits = 0 then style.plainText ['0'] 1
    else match style.plainRange with
      | none => style.plainText digits place
      | some (low, high) =>
        if low ≤ place - 1 ∧ place - 1 ≤ high then style.plainText digits place
        else scientificText digits (place - 1)
  String.ofList (if x.isNegative then '-' :: body else body)

/-- Numbers in a document: plain for leading exponents from −5 to 15, always with a point or an
exponent. -/
def document : DecimalStyle where
  plainRange := some (-5, 15)
  pointZero := true
  tie := .toEven

/-- Numbers in a message: never an exponent, and no point after an integral value. -/
def message : DecimalStyle where
  plainRange := none
  pointZero := false
  tie := .up

end DecimalStyle

end UiSchema
