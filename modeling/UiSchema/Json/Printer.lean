import UiSchema.Binary64.Shortest
import UiSchema.Json.Basic

/-!
# Document text

`compact` writes a value without spaces, `pretty` with one entry a line and two spaces a level. In
strings only quotes, backslashes and control characters are escaped.
-/

set_option autoImplicit false

namespace UiSchema.Json

def hexDigit (n : Nat) : Char := (Nat.toDigits 16 (n % 16)).headD '0'

def escapedChar (c : Char) : List Char :=
  match c with
  | '"' => ['\\', '"']
  | '\\' => ['\\', '\\']
  | '\x08' => ['\\', 'b']
  | '\t' => ['\\', 't']
  | '\n' => ['\\', 'n']
  | '\x0c' => ['\\', 'f']
  | '\r' => ['\\', 'r']
  | c =>
    if c.toNat < 32 then ['\\', 'u', '0', '0', hexDigit (c.toNat / 16), hexDigit c.toNat]
    else [c]

def stringText (s : String) : List Char := '"' :: (s.toList.flatMap escapedChar ++ ['"'])

def intText (n : Int) : List Char :=
  if n < 0 then '-' :: Nat.toDigits 10 n.natAbs else Nat.toDigits 10 n.natAbs

def scalarText : Json → List Char
  | .null => ['n', 'u', 'l', 'l']
  | .bool true => ['t', 'r', 'u', 'e']
  | .bool false => ['f', 'a', 'l', 's', 'e']
  | .int n => intText n
  | .float x => if x.isFinite then (DecimalStyle.document.text x).toList else ['n', 'u', 'l', 'l']
  | .str s => stringText s
  | .arr _ => []
  | .obj _ => []

mutual

def compactChars : Json → List Char
  | .arr items => '[' :: compactItems items
  | .obj fields => '\x7b' :: compactFields fields
  | v => scalarText v

/-- The items behind an opening bracket, up to the closing one. -/
def compactItems : List Json → List Char
  | [] => [']']
  | [x] => compactChars x ++ [']']
  | x :: xs => compactChars x ++ ',' :: compactItems xs

/-- The entries behind an opening brace, up to the closing one. -/
def compactFields : List (String × Json) → List Char
  | [] => ['\x7d']
  | [(k, x)] => stringText k ++ ':' :: (compactChars x ++ ['\x7d'])
  | (k, x) :: xs => stringText k ++ ':' :: (compactChars x ++ ',' :: compactFields xs)

end

/-- The value on one line, without spaces. -/
def compact (v : Json) : String := String.ofList (compactChars v)

def newline (depth : Nat) : List Char := '\n' :: List.replicate (2 * depth) ' '

mutual

def prettyChars (depth : Nat) : Json → List Char
  | .arr [] => ['[', ']']
  | .arr (x :: xs) =>
    '[' :: (newline (depth + 1) ++ prettyChars (depth + 1) x ++ prettyItems depth xs)
  | .obj [] => ['\x7b', '\x7d']
  | .obj ((k, x) :: xs) =>
    '\x7b' :: (newline (depth + 1) ++ stringText k ++
      ':' :: ' ' :: (prettyChars (depth + 1) x ++ prettyFields depth xs))
  | v => scalarText v

/-- The items after the first, up to the closing bracket. -/
def prettyItems (depth : Nat) : List Json → List Char
  | [] => newline depth ++ [']']
  | x :: xs => ',' :: (newline (depth + 1) ++ prettyChars (depth + 1) x ++ prettyItems depth xs)

/-- The entries after the first, up to the closing brace. -/
def prettyFields (depth : Nat) : List (String × Json) → List Char
  | [] => newline depth ++ ['\x7d']
  | (k, x) :: xs =>
    ',' :: (newline (depth + 1) ++ stringText k ++
      ':' :: ' ' :: (prettyChars (depth + 1) x ++ prettyFields depth xs))

end

/-- The value over several lines, two spaces a level. -/
def pretty (v : Json) : String := String.ofList (prettyChars 0 v)

end UiSchema.Json
