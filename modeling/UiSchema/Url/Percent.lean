import UiSchema.Text.Reader

/-!
# Percent encoding

A byte is written as a percent sign with two hexadecimal digits. Encoding writes so the bytes of all
characters that may not stand in a part of a URL; decoding leaves a percent sign alone that no two
digits follow.
-/

set_option autoImplicit false

namespace UiSchema.Url

def utf8 (s : String) : List UInt8 := s.toUTF8.toList

def upperHex (n : Nat) : Char := (Nat.toDigits 16 n).headD '0' |>.toUpper

def percentByte (b : UInt8) : List Char :=
  ['%', upperHex (b.toNat / 16), upperHex (b.toNat % 16)]

/-- Controls and all characters beyond ASCII are written as bytes in every part. -/
def encodeChar (forbidden : List Char) (c : Char) : List Char :=
  if c.toNat < 32 || 126 < c.toNat || forbidden.contains c then
    (utf8 (String.singleton c)).flatMap percentByte
  else [c]

def encode (forbidden : List Char) (cs : List Char) : List Char := cs.flatMap (encodeChar forbidden)

/-- The byte that two hexadecimal digits write. -/
def hexByte? (high low : Char) : Option UInt8 := do
  let high ← Text.hexValue? high
  let low ← Text.hexValue? low
  some (UInt8.ofNat (16 * high + low))

/-- The bytes of a text. -/
def decodeBytes : List Char → List UInt8
  | '%' :: high :: low :: rest =>
    match hexByte? high low with
    | some b => b :: decodeBytes rest
    | none => utf8 "%" ++ decodeBytes (high :: low :: rest)
  | c :: rest => utf8 (String.singleton c) ++ decodeBytes rest
  | [] => []

/-- The text that the bytes of an encoded text write, if they are UTF-8. -/
def decode? (cs : List Char) : Option String := String.fromUTF8? ⟨(decodeBytes cs).toArray⟩

end UiSchema.Url
