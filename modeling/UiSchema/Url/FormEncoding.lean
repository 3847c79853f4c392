import UiSchema.Url.Percent

/-!
# Form encoding of URL parts

Names and values are written as the bytes of their UTF-8 form: letters, digits and `*-._` stand for
themselves, a space is a plus, every other byte a percent sign with two hexadecimal digits.
-/

set_option autoImplicit false

namespace UiSchema.Url

def isUnreserved (b : UInt8) : Bool :=
  let c := Char.ofNat b.toNat
  decide (b.toNat < 128) && (c.isAlphanum || c == '*' || c == '-' || c == '.' || c == '_')

def formByte (b : UInt8) : List Char :=
  if isUnreserved b then [Char.ofNat b.toNat]
  else if b = 32 then ['+']
  else percentByte b

/-- The form encoding of a name or value. -/
def formEncode (s : String) : List Char := (utf8 s).flatMap formByte

/-- A name and a value as one parameter of a query. -/
def formPair (name value : String) : List Char := formEncode name ++ '=' :: formEncode value

end UiSchema.Url
