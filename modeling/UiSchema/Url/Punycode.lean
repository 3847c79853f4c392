import UiSchema.Text.Reader

/-!
# Punycode

A label with characters beyond ASCII is written as its ASCII characters, a hyphen, and a sequence of
numbers that tell which other characters are inserted where, in ascending order. The numbers are
written in base 36 with variable thresholds that adapt to the numbers before.
-/

set_option autoImplicit false

namespace UiSchema.Url.Punycode

def base : Nat := 36

/-- The first character that is not written as it stands. -/
def firstPoint : Nat := 128

def firstBias : Nat := 72

/-- The digit of a value below 36: the letters come before the figures. -/
def digit (n : Nat) : Char := Char.ofNat (if n < 26 then 'a'.toNat + n else '0'.toNat + (n - 26))

def digitValue? (c : Char) : Option Nat :=
  if c.isDigit then some (c.toNat - '0'.toNat + 26)
  else if c.isAlpha then some (c.toLower.toNat - 'a'.toNat)
  else none

/-- The values at a place from this one on mean that more digits follow. -/
def threshold (place bias : Nat) : Nat := max 1 (min 26 (place - bias))

theorem threshold_pos (place bias : Nat) : 1 ≤ threshold place bias := by
  simp only [threshold]
  omega

/-- The bias that suits numbers of about the size of `delta`. -/
def biasFor (bias delta : Nat) : Nat :=
  if 455 < delta then biasFor (bias + base) (delta / 35) else bias + base * delta / (delta + 38)
termination_by delta
decreasing_by omega

/-- The bias for the next number, when the text has `count` characters. -/
def adapt (delta count : Nat) (isFirst : Bool) : Nat :=
  let delta := if isFirst then delta / 700 else delta / 2
  biasFor 0 (delta + delta / count)

/-! ## Writing -/

/-- The digits of a number, from a place on. -/
def digits (bias place n : Nat) : List Char :=
  let t := threshold place bias
  if n < t then [digit n]
  else digit (t + (n - t) % (base - t)) :: digits bias (place + base) ((n - t) / (base - t))
termination_by n
decreasing_by
  have h := threshold_pos place bias
  have hdiv := Nat.div_le_self (n - threshold place bias) (base - threshold place bias)
  omega

/-- The state of writing: the next character to be looked for, and how far it is to the next place
where one can be inserted. -/
structure Writer where
  point : Nat := firstPoint
  delta : Nat := 0
  bias : Nat := firstBias
  /-- how many characters were written -/
  count : Nat
  isFirst : Bool := true
  /-- the digits, from the last one -/
  reversed : List Char := []

namespace Writer

/-- Passes one character of the text. -/
def pass (w : Writer) (c : Nat) : Writer :=
  if c < w.point then { w with delta := w.delta + 1 }
  else if c = w.point then
    { w with
      delta := 0
      bias := adapt w.delta (w.count + 1) w.isFirst
      count := w.count + 1
      isFirst := false
      reversed := (digits w.bias base w.delta).reverse ++ w.reversed }
  else w

/-- Writes all places of one character. -/
def writePoint (text : List Nat) (w : Writer) (point : Nat) : Writer :=
  let w := { w with point := point, delta := w.delta + (point - w.point) * (w.count + 1) }
  let w := text.foldl pass w
  { w with point := point + 1, delta := w.delta + 1 }

end Writer

def insertAscending (n : Nat) : List Nat → List Nat
  | [] => [n]
  | m :: rest =>
    if n < m then n :: m :: rest
    else if n = m then m :: rest
    else m :: insertAscending n rest

def isBasic (c : Char) : Bool := decide (c.toNat < firstPoint)

def encode (text : List Char) : List Char :=
  let basic := text.filter isBasic
  let points := (text.filter (fun c => !isBasic c)).foldr (fun c ps => insertAscending c.toNat ps) []
  let start : Writer := { count := basic.length }
  let w := points.foldl (Writer.writePoint (text.map Char.toNat)) start
  basic ++ (if basic.isEmpty then [] else ['-']) ++ w.reversed.reverse

/-! ## Reading -/

/-- Reads a number off the front; `n` is what the digits before come to. -/
def readNumber (bias : Nat) : (place weight n : Nat) → Text.Reader Nat
  | _, _, _, [] => none
  | place, weight, n, c :: rest => do
    let d ← digitValue? c
    let n := n + d * weight
    let t := threshold place bias
    if d < t then some (n, rest) else readNumber bias (place + base) (weight * (base - t)) n rest

def charOf? (point : Nat) : Option Char := if point.isValidChar then some (Char.ofNat point) else none

/-- Inserts the characters that the numbers tell into a text; `start` is the number that stands for
the next place. The count bounds how many numbers there are. -/
def insertAll (text : List Char) (start bias : Nat) (isFirst : Bool) :
    Nat → List Char → Option (List Char)
  | _, [] => some text
  | 0, _ :: _ => none
  | count + 1, cs => do
    let (delta, rest) ← readNumber bias base 1 0 cs
    let size := text.length + 1
    let number := start + delta
    let c ← charOf? (firstPoint + number / size)
    let place := number % size
    let text := text.take place ++ c :: text.drop place
    let next := number / size * (size + 1) + place + 1
    insertAll text next (adapt delta size isFirst) false count rest

/-- The ASCII characters in front of the last hyphen, and what stands behind it. A hyphen at the very
front belongs to what follows. -/
def cutAtHyphen (cs : List Char) : List Char × List Char :=
  let behind := (cs.reverse.takeWhile (· != '-')).reverse
  match cs.reverse.dropWhile (· != '-') with
  | _ :: c :: front => ((c :: front).reverse, behind)
  | _ => ([], cs)

def decode (cs : List Char) : Option (List Char) :=
  let (basic, numbers) := cutAtHyphen cs
  if basic.all isBasic then insertAll basic 0 firstBias true numbers.length numbers else none

end UiSchema.Url.Punycode
