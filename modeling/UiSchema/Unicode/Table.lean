import UiSchema.Text.Pieces
import UiSchema.Text.Reader

/-!
# Tables of code points

A table lists rows of code points in ascending order, with values for each row. It is written as
words: `first`, `first-last` or `first-last/step`, and behind a colon the values, all of them in
hexadecimal.
-/

set_option autoImplicit false

namespace UiSchema.Unicode

/-- Every `step`-th code point from `first` to `last`. -/
structure Row where
  first : Nat
  last : Nat
  step : Nat
  values : List Nat

namespace Row

def covers (r : Row) (c : Nat) : Bool :=
  decide (r.first ≤ c) && decide (c ≤ r.last) && (c - r.first) % r.step == 0

/-- The values of a code point, in a row whose values grow along with its code points. -/
def valuesAt (r : Row) (c : Nat) : List Nat := r.values.map (· + (c - r.first))

end Row

/-- The number that hexadecimal digits write. -/
def hexNumber? (digits : List Char) : Option Nat :=
  if digits.isEmpty then none else (digits.mapM Text.hexValue?).map (Text.natOfDigits 16)

/-- What stands in front of a separator, and what behind it if there is one. -/
def cutBehind (separator : Char) (cs : List Char) : List Char × Option (List Char) :=
  match Text.cutOnce separator cs with
  | some (front, behind) => (front, some behind)
  | none => (cs, none)

def readRow? (word : List Char) : Option Row := do
  let (range, values) := cutBehind ':' word
  let (range, step) := cutBehind '/' range
  let (first, last) := cutBehind '-' range
  let first ← hexNumber? first
  let last ← hexNumber? (last.getD range)
  let step ← hexNumber? (step.getD ['1'])
  let values ← (values.map (Text.pieces ',')).getD [] |>.mapM hexNumber?
  some ⟨first, last, step, values⟩

abbrev Table := Array Row

namespace Table

/-- Adds the row that a word writes, given from its last character to its first. -/
def addWord (t : Table) (reversed : List Char) : Table :=
  match readRow? reversed.reverse with
  | some row => t.push row
  | none => t

/-- The table of a text with blanks or line breaks between its words. -/
def ofText (text : String) : Table :=
  let (t, reversed) := text.toList.foldl (fun (t, reversed) c =>
    if c = ' ' ∨ c = '\n' then (addWord t reversed, []) else (t, c :: reversed)) ((#[] : Table), [])
  addWord t reversed

/-- How many rows from `low` on, below `high`, are to be passed to get beyond a code point. -/
def beyond (t : Table) (c low high : Nat) : Nat :=
  if h : low < high then
    let middle := (low + high) / 2
    let startsBefore := match t[middle]? with
      | some row => decide (row.first ≤ c)
      | none => false
    if startsBefore then beyond t c (middle + 1) high else beyond t c low middle
  else low
termination_by high - low
decreasing_by all_goals omega

/-- The row of a code point. -/
def row? (t : Table) (c : Nat) : Option Row :=
  match beyond t c 0 t.size with
  | 0 => none
  | n + 1 => t[n]?.filter (fun row => row.covers c)

def contains (t : Table) (c : Nat) : Bool := (t.row? c).isSome

end Table

/-- The code points for which no table is needed. -/
def isAscii (c : Nat) : Bool := decide (c < 128)

end UiSchema.Unicode
