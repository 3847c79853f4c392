import UiSchema.Toml.Moment

/-!
# Scalars of a sectioned document

Strings in four spellings, integers in four bases, floating-point numbers, and dates and times, which
become an object with their normalised text. Numbers without a finite value become null.
-/

set_option autoImplicit false

namespace UiSchema.Toml

open Text

/-- A line end at the front of a text. -/
def dropNewline? : List Char → Option (List Char)
  | '\n' :: rest => some rest
  | '\r' :: '\n' :: rest => some rest
  | _ => none

def isSpace (c : Char) : Bool := c == ' ' || c == '\t'

def skipSpace (cs : List Char) : List Char := cs.dropWhile isSpace

/-- Space and line ends. -/
def skipSpaceLines : Nat → List Char → List Char
  | 0, cs => cs
  | fuel + 1, cs =>
    match dropNewline? cs with
    | some rest => skipSpaceLines fuel rest
    | none => match cs with
      | c :: rest => if isSpace c then skipSpaceLines fuel rest else cs
      | [] => []

/-- A character that may stand for itself in a string: no control but the tab. -/
def isPlain (c : Char) : Bool := c == '\t' || (decide (32 ≤ c.toNat) && c.toNat != 127)

def scalarValue? (n : Nat) : Option Char :=
  if n < 0xD800 ∨ (0xE000 ≤ n ∧ n < 0x110000) then some (Char.ofNat n) else none

/-- One escape behind its backslash. -/
def readEscape : Reader Char
  | 'b' :: rest => some ('\x08', rest)
  | 't' :: rest => some ('\t', rest)
  | 'n' :: rest => some ('\n', rest)
  | 'f' :: rest => some ('\x0c', rest)
  | 'r' :: rest => some ('\r', rest)
  | '"' :: rest => some ('"', rest)
  | '\\' :: rest => some ('\\', rest)
  | 'u' :: rest => do
    let (n, rest) ← readFixed hexValue? 16 4 0 rest
    let c ← scalarValue? n
    some (c, rest)
  | 'U' :: rest => do
    let (n, rest) ← readFixed hexValue? 16 8 0 rest
    let c ← scalarValue? n
    some (c, rest)
  | _ => none

/-- The characters of a one-line string with escapes, up to its closing quote. -/
def readBasic : Nat → Reader (List Char)
  | 0, _ => none
  | _ + 1, [] => none
  | _ + 1, '"' :: rest => some ([], rest)
  | fuel + 1, '\\' :: rest => do
    let (c, rest) ← readEscape rest
    let (cs, rest) ← readBasic fuel rest
    some (c :: cs, rest)
  | fuel + 1, c :: rest =>
    if isPlain c then do
      let (cs, rest) ← readBasic fuel rest
      some (c :: cs, rest)
    else none

/-- The characters of a one-line string without escapes, up to its closing quote. -/
def readLiteral : Reader (List Char)
  | [] => none
  | '\'' :: rest => some ([], rest)
  | c :: rest =>
    if isPlain c then do
      let (cs, rest) ← readLiteral rest
      some (c :: cs, rest)
    else none

/-- Three quotes close a string of several lines; one or two more before them belong to it. -/
def closing? (quote : Char) (cs : List Char) : Option (List Char × List Char) :=
  let run := cs.takeWhile (· == quote)
  if 3 ≤ run.length ∧ run.length ≤ 5 then
    some (List.replicate (run.length - 3) quote, cs.drop run.length)
  else if 5 < run.length then some ([quote, quote], cs.drop 5)
  else none

/-- The characters of a string of several lines, up to its closing quotes. A backslash at the end of
a line takes the line end and the space behind it away. -/
def readLong (quote : Char) (escapes : Bool) : Nat → Reader (List Char)
  | 0, _ => none
  | fuel + 1, cs =>
    match closing? quote cs with
    | some found => some found
    | none =>
      match dropNewline? cs with
      | some rest => do
        let (cs, rest) ← readLong quote escapes fuel rest
        some ('\n' :: cs, rest)
      | none => match cs with
        | [] => none
        | c :: rest =>
          if escapes && c == '\\' then
            match dropNewline? (skipSpace rest) with
            | some rest => readLong quote escapes fuel (skipSpaceLines rest.length rest)
            | none => do
              let (c, rest) ← readEscape rest
              let (cs, rest) ← readLong quote escapes fuel rest
              some (c :: cs, rest)
          else if isPlain c then do
            let (cs, rest) ← readLong quote escapes fuel rest
            some (c :: cs, rest)
          else none

def readLongString (quote : Char) (cs : List Char) : Option (String × List Char) :=
  let cs := (dropNewline? cs).getD cs
  (readLong quote (quote == '"') (cs.length + 1) cs).map (fun p => (String.ofList p.1, p.2))

/-- A string on one line. -/
def readShortString : Reader String
  | '"' :: rest => (readBasic (rest.length + 1) rest).map (fun p => (String.ofList p.1, p.2))
  | '\'' :: rest => (readLiteral rest).map (fun p => (String.ofList p.1, p.2))
  | _ => none

def readString : Reader String
  | '"' :: '"' :: '"' :: rest => readLongString '"' rest
  | '\'' :: '\'' :: '\'' :: rest => readLongString '\'' rest
  | cs => readShortString cs

/-- Digits after a first one, with single underscores between digits. -/
def readGroup (value? : Char → Option Nat) : List Char → List Nat × List Char
  | [] => ([], [])
  | '_' :: c :: rest =>
    match value? c with
    | some d => let (ds, left) := readGroup value? rest; (d :: ds, left)
    | none => ([], '_' :: c :: rest)
  | c :: rest =>
    match value? c with
    | some d => let (ds, left) := readGroup value? rest; (d :: ds, left)
    | none => ([], c :: rest)

/-- One or more digits, with single underscores between digits. -/
def readGrouped (value? : Char → Option Nat) : Reader (List Nat)
  | [] => none
  | c :: rest => do
    let d ← value? c
    let (ds, left) := readGroup value? rest
    some (d :: ds, left)

def readSign : List Char → Bool × List Char
  | '+' :: rest => (false, rest)
  | '-' :: rest => (true, rest)
  | cs => (false, cs)

/-- A decimal integer part: no zero before other digits. -/
def readWhole : Reader (List Nat)
  | '0' :: rest => some ([0], rest)
  | cs => readGrouped digit? cs

def signed (negative : Bool) (n : Nat) : Int := if negative then -(n : Int) else n

/-- Integers have sixty-four bits with a sign. -/
def integer? (negative : Bool) (n : Nat) : Option Json :=
  let v := signed negative n
  if -0x8000000000000000 ≤ v ∧ v < 0x8000000000000000 then some (.int v) else none

def basedDigit? (base : Nat) (c : Char) : Option Nat :=
  (hexValue? c).bind (fun d => if d < base then some d else none)

def readBased (base : Nat) : Reader Json := fun cs => do
  let (ds, rest) ← readGrouped (basedDigit? base) cs
  let v ← integer? false (natOfDigits base ds)
  some (v, rest)

def readInteger : Reader Json
  | '0' :: 'x' :: rest => readBased 16 rest
  | '0' :: 'o' :: rest => readBased 8 rest
  | '0' :: 'b' :: rest => readBased 2 rest
  | cs => do
    let (negative, cs) := readSign cs
    let (ds, rest) ← readWhole cs
    let v ← integer? negative (natOfDigits 10 ds)
    some (v, rest)

def readFraction : Reader (List Nat)
  | '.' :: rest => readGrouped digit? rest
  | _ => none

def readExponent : Reader Int
  | c :: rest =>
    if c == 'e' || c == 'E' then do
      let (negative, rest) := readSign rest
      let (ds, rest) ← readGrouped digit? rest
      some (signed negative (natOfDigits 10 ds), rest)
    else none
  | [] => none

/-- A positive literal beyond the finite range is refused, a negative one has no value. -/
def floatValue? (negative : Bool) (digits : Nat) (exponent : Int) : Option Json :=
  let x := Binary64.ofDecimal negative digits exponent
  if x.isFinite then some (.float x) else if negative then some .null else none

def readFloat : Reader Json := fun cs => do
  let (negative, cs) := readSign cs
  let (whole, cs) ← readWhole cs
  match readExponent cs with
  | some (e, rest) =>
    let v ← floatValue? negative (natOfDigits 10 whole) e
    some (v, rest)
  | none =>
    let (fraction, cs) ← readFraction cs
    let (e, rest) := (readExponent cs).getD (0, cs)
    let v ← floatValue? negative (natOfDigits 10 (whole ++ fraction)) (e - fraction.length)
    some (v, rest)

/-- Infinities and the undefined number, which have no finite value. -/
def readSpecial : Reader Json := fun cs =>
  let cs := (readSign cs).2
  (readWord ['i', 'n', 'f'] .null cs).orElse (fun _ => readWord ['n', 'a', 'n'] .null cs)

/-- A date, a time of day, or both. -/
def readMoment : Reader Json := fun cs =>
  match readDate cs with
  | some (date, cs) =>
    let (time, cs) := (readDayTime cs).getD ("", cs)
    some (momentValue (date ++ time), cs)
  | none => (readTime 23 cs).map (fun p => (momentValue p.1, p.2))

def readScalar : Reader Json
  | 't' :: rest => readWord ['t', 'r', 'u', 'e'] (.bool true) ('t' :: rest)
  | 'f' :: rest => readWord ['f', 'a', 'l', 's', 'e'] (.bool false) ('f' :: rest)
  | '"' :: rest => (readString ('"' :: rest)).map (fun p => (.str p.1, p.2))
  | '\'' :: rest => (readString ('\'' :: rest)).map (fun p => (.str p.1, p.2))
  | cs =>
    (readMoment cs).orElse fun _ => (readFloat cs).orElse fun _ =>
      (readSpecial cs).orElse fun _ => readInteger cs

end UiSchema.Toml
