import UiSchema.Json.Number
import UiSchema.Text.Reader

/-!
# Reading document text

Arrays and objects may be nested `depthLimit` deep. Of two entries of an object with one key the
later stays.
-/

set_option autoImplicit false

namespace UiSchema.Json

open Text

def depthLimit : Nat := 127

def isSpace (c : Char) : Bool := c == ' ' || c == '\t' || c == '\n' || c == '\r'

def skipSpace (cs : List Char) : List Char := cs.dropWhile isSpace

def readWhole : Reader (List Nat)
  | '0' :: rest => some ([0], rest)
  | cs => match readDigits cs with
    | ([], _) => none
    | (ds, rest) => some (ds, rest)

def readFraction : Reader (List Nat)
  | '.' :: rest => match readDigits rest with
    | ([], _) => none
    | (ds, rest) => some (ds, rest)
  | cs => some ([], cs)

def readExponentDigits (negative : Bool) (cs : List Char) : Option (Option Int × List Char) :=
  match readDigits cs with
  | ([], _) => none
  | (ds, rest) =>
    let n : Int := natOfDigits 10 ds
    some (some (if negative then -n else n), rest)

def readExponent (cs : List Char) : Option (Option Int × List Char) :=
  match cs with
  | c :: rest =>
    if c = 'e' ∨ c = 'E' then
      match rest with
      | '+' :: rest => readExponentDigits false rest
      | '-' :: rest => readExponentDigits true rest
      | rest => readExponentDigits false rest
    else some (none, cs)
  | [] => some (none, cs)

def readUnsigned (negative : Bool) : Reader Json := fun cs => do
  let (whole, cs) ← readWhole cs
  let (fraction, cs) ← readFraction cs
  let (exponent, cs) ← readExponent cs
  let v ← NumberLiteral.value? ⟨negative, whole, fraction, exponent⟩
  some (v, cs)

def readNumber : Reader Json
  | '-' :: rest => readUnsigned true rest
  | cs => readUnsigned false cs

def unit? (a b c d : Char) : Option Nat := do
  let a ← hexValue? a
  let b ← hexValue? b
  let c ← hexValue? c
  let d ← hexValue? d
  some (((a * 16 + b) * 16 + c) * 16 + d)

def isHighSurrogate (u : Nat) : Bool := decide (0xD800 ≤ u ∧ u < 0xDC00)

def isLowSurrogate (u : Nat) : Bool := decide (0xDC00 ≤ u ∧ u < 0xE000)

def simpleEscape? : Char → Option Char
  | '"' => some '"'
  | '\\' => some '\\'
  | '/' => some '/'
  | 'b' => some '\x08'
  | 'f' => some '\x0c'
  | 'n' => some '\n'
  | 'r' => some '\r'
  | 't' => some '\t'
  | _ => none

/-- One escape behind its backslash: a letter, or four hexadecimal digits, or two such units that
form a surrogate pair. -/
def readEscape : Reader Char
  | 'u' :: a :: b :: c :: d :: rest => do
    let u ← unit? a b c d
    if isLowSurrogate u then none
    else if isHighSurrogate u then
      match rest with
      | '\\' :: 'u' :: e :: f :: g :: h :: rest =>
        let l ← unit? e f g h
        if isLowSurrogate l then
          some (Char.ofNat (0x10000 + (u - 0xD800) * 0x400 + (l - 0xDC00)), rest)
        else none
      | _ => none
    else some (Char.ofNat u, rest)
  | c :: rest => (simpleEscape? c).map (·, rest)
  | [] => none

/-- The characters up to the closing quote; `fuel` bounds their number. -/
def readStringBody : Nat → Reader (List Char)
  | 0, _ => none
  | _ + 1, [] => none
  | _ + 1, '"' :: rest => some ([], rest)
  | fuel + 1, '\\' :: rest => do
    let (c, rest) ← readEscape rest
    let (cs, rest) ← readStringBody fuel rest
    some (c :: cs, rest)
  | fuel + 1, c :: rest =>
    if c.toNat < 32 then none
    else do
      let (cs, rest) ← readStringBody fuel rest
      some (c :: cs, rest)

def readString : Reader String
  | '"' :: rest => (readStringBody (rest.length + 1) rest).map (fun p => (String.ofList p.1, p.2))
  | _ => none

def readScalar : Reader Json
  | '"' :: rest => (readString ('"' :: rest)).map (fun p => (.str p.1, p.2))
  | 'n' :: rest => readWord ['n', 'u', 'l', 'l'] .null ('n' :: rest)
  | 't' :: rest => readWord ['t', 'r', 'u', 'e'] (.bool true) ('t' :: rest)
  | 'f' :: rest => readWord ['f', 'a', 'l', 's', 'e'] (.bool false) ('f' :: rest)
  | cs => readNumber cs

/-- Items up to the closing bracket, the first of them at hand. -/
def readItems (item : Reader Json) : Nat → Reader (List Json)
  | 0, _ => none
  | fuel + 1, cs => do
    let (v, cs) ← item (skipSpace cs)
    match skipSpace cs with
    | ']' :: rest => some ([v], rest)
    | ',' :: rest =>
      let (vs, rest) ← readItems item fuel rest
      some (v :: vs, rest)
    | _ => none

def readArray (item : Reader Json) : Reader Json := fun cs =>
  match skipSpace cs with
  | ']' :: rest => some (.arr [], rest)
  | cs => (readItems item (cs.length + 1) cs).map (fun p => (.arr p.1, p.2))

/-- Entries up to the closing brace, the first of them at hand. -/
def readEntries (item : Reader Json) : Nat → Reader (List (String × Json))
  | 0, _ => none
  | fuel + 1, cs => do
    let (key, cs) ← readString (skipSpace cs)
    match skipSpace cs with
    | ':' :: cs =>
      let (v, cs) ← item (skipSpace cs)
      match skipSpace cs with
      | '\x7d' :: rest => some ([(key, v)], rest)
      | ',' :: rest =>
        let (vs, rest) ← readEntries item fuel rest
        some ((key, v) :: vs, rest)
      | _ => none
    | _ => none

def readObject (item : Reader Json) : Reader Json := fun cs =>
  match skipSpace cs with
  | '\x7d' :: rest => some (.obj [], rest)
  | cs => (readEntries item (cs.length + 1) cs).map (fun p => (.obj (Dict.ofList p.1), p.2))

/-- A value that nests arrays and objects at most `depth` deep. -/
def readValue : Nat → Reader Json
  | 0, cs => readScalar cs
  | depth + 1, cs =>
    match cs with
    | '[' :: rest => readArray (readValue depth) rest
    | '\x7b' :: rest => readObject (readValue depth) rest
    | cs => readScalar cs

/-- The value that a text holds, with nothing but space around it. -/
def parse? (text : String) : Option Json :=
  match readValue depthLimit (skipSpace text.toList) with
  | some (v, rest) => if (skipSpace rest).isEmpty then some v else none
  | none => none

end UiSchema.Json
