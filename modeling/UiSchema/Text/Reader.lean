/-!
# Readers

A reader takes characters off the front of a text and returns what it read with the rest, or nothing
if the text does not begin as it should.
-/

set_option autoImplicit false

namespace UiSchema.Text

abbrev Reader (α : Type) := List Char → Option (α × List Char)

/-- The value of a decimal digit. -/
def digit? (c : Char) : Option Nat := if c.isDigit then some (c.toNat - '0'.toNat) else none

/-- The value of a hexadecimal digit of either case. -/
def hexValue? (c : Char) : Option Nat :=
  if c.isDigit then some (c.toNat - '0'.toNat)
  else if 'a' ≤ c ∧ c ≤ 'f' then some (c.toNat - 'a'.toNat + 10)
  else if 'A' ≤ c ∧ c ≤ 'F' then some (c.toNat - 'A'.toNat + 10)
  else none

/-- The number that digits write in a base, the first of them the leading one. -/
def natOfDigits (base : Nat) (digits : List Nat) : Nat := digits.foldl (fun n d => base * n + d) 0

/-- The longest run of decimal digits. -/
def readDigits : List Char → List Nat × List Char
  | [] => ([], [])
  | c :: rest =>
    match digit? c with
    | none => ([], c :: rest)
    | some d => let (ds, left) := readDigits rest; (d :: ds, left)

/-- Exactly `count` digits, as the number they write. -/
def readFixed (value? : Char → Option Nat) (base : Nat) : Nat → Nat → Reader Nat
  | 0, n, cs => some (n, cs)
  | _ + 1, _, [] => none
  | count + 1, n, c :: rest => do
    let d ← value? c
    readFixed value? base count (base * n + d) rest

/-- The rest of a text that begins with a word. -/
def dropWord? (word cs : List Char) : Option (List Char) :=
  if word.isPrefixOf cs then some (cs.drop word.length) else none

def readWord {α : Type} (word : List Char) (v : α) : Reader α := fun cs =>
  (dropWord? word cs).map (fun rest => (v, rest))

end UiSchema.Text
