import UiSchema.Text.Unprintable

/-!
# Quoted text in messages

A text inside a message stands in double quotes. Quotes, backslashes, line ends, tabs and the null
character are written with a backslash, other characters that do not print by their code point.
-/

set_option autoImplicit false

namespace UiSchema.Text

def quotedChar (c : Char) : List Char :=
  match c with
  | '"' => ['\\', '"']
  | '\\' => ['\\', '\\']
  | '\n' => ['\\', 'n']
  | '\r' => ['\\', 'r']
  | '\t' => ['\\', 't']
  | '\x00' => ['\\', '0']
  | c =>
    if isUnprintable c then
      ['\\', 'u', '\x7b'] ++ Nat.toDigits 16 c.toNat ++ ['\x7d']
    else [c]

def quoted (s : String) : String :=
  String.ofList ('"' :: (s.toList.flatMap quotedChar ++ ['"']))

end UiSchema.Text
