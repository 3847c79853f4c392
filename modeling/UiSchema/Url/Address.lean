import UiSchema.Text.Pieces
import UiSchema.Text.Reader

/-!
# Addresses

Hosts that are numbers. An address of 32 bits is written as one to four numbers with dots between,
each of them decimal, octal or hexadecimal, the last one standing for all bits that are left; it is
printed as four decimal bytes. An address of 128 bits is written as eight hexadecimal groups, of which
one run of zeros may be left out and the last two may be such four bytes; it is printed without the
longest run of zeros.
-/

set_option autoImplicit false

namespace UiSchema.Url

/-- The number that digits of a base write. -/
def numberIn? (base : Nat) (digits : List Char) : Option Nat :=
  let digit? (c : Char) : Option Nat := (Text.hexValue? c).filter (fun d => decide (d < base))
  (digits.mapM digit?).map (Text.natOfDigits base)

/-- A number in the base that its first characters tell. -/
def addressNumber? : List Char → Option Nat
  | [] => none
  | '0' :: 'x' :: digits => numberIn? 16 digits
  | '0' :: 'X' :: digits => numberIn? 16 digits
  | '0' :: c :: digits => numberIn? 8 (c :: digits)
  | digits => numberIn? 10 digits

/-- The numbers of a dotted text; a dot may stand at its end. -/
def dottedParts (text : List Char) : List (List Char) :=
  let parts := Text.pieces '.' text
  if parts.length ≠ 1 ∧ parts.getLast? = some [] then parts.dropLast else parts

/-- Whether a host is to be an address, and nothing if it is none. -/
def endsInNumber (host : List Char) : Bool :=
  match (dottedParts host).getLast? with
  | some last => !last.isEmpty && (last.all Char.isDigit || (addressNumber? last).isSome)
  | none => false

def isByte (n : Nat) : Bool := decide (n < 256)

/-- The address that bytes and a number for the bits left come to. -/
def addressOf? (bytes : List Nat) (last : Nat) : Option Nat :=
  if bytes.length < 4 && bytes.all isByte && decide (last < Nat.pow 256 (4 - bytes.length)) then
    some (Text.natOfDigits 256 bytes * Nat.pow 256 (4 - bytes.length) + last)
  else none

/-- The 32-bit address that a host writes. -/
def address32? (host : List Char) : Option Nat := do
  let numbers ← (dottedParts host).mapM addressNumber?
  let last ← numbers.getLast?
  addressOf? numbers.dropLast last

def decimalText (n : Nat) : List Char := Nat.toDigits 10 n

/-- The four bytes of a 32-bit address. -/
def bytesOf (address : Nat) : List Nat :=
  [address / 0x1000000, address / 0x10000 % 256, address / 0x100 % 256, address % 256]

def address32Text (address : Nat) : List Char :=
  Text.join '.' ((bytesOf address).map decimalText)

/-! ## Addresses of eight groups -/

/-- A byte in decimal digits, without zeros in front. -/
def byte? (digits : List Char) : Option Nat :=
  match digits with
  | [] => none
  | '0' :: _ :: _ => none
  | _ => if digits.length ≤ 3 then (numberIn? 10 digits).filter isByte else none

def group? (digits : List Char) : Option Nat :=
  if digits.isEmpty || decide (4 < digits.length) then none else numberIn? 16 digits

/-- The two groups that four bytes come to. -/
def groupsOfBytes? (text : List Char) : Option (List Nat) := do
  let bytes ← (Text.pieces '.' text).mapM byte?
  match bytes with
  | [a, b, c, d] => some [256 * a + b, 256 * c + d]
  | _ => none

/-- Groups with colons between; the last two may be four bytes if `mayEndInBytes`. -/
def groups? (mayEndInBytes : Bool) (text : List Char) : Option (List Nat) :=
  let texts := Text.pieces ':' text
  match texts.getLast? with
  | some last =>
    if mayEndInBytes && last.contains '.' then do
      let front ← texts.dropLast.mapM group?
      let behind ← groupsOfBytes? last
      some (front ++ behind)
    else texts.mapM group?
  | none => none

/-- The text before and after the first two colons that stand together. -/
def cutAtGap : List Char → Option (List Char × List Char)
  | ':' :: ':' :: rest => some ([], rest)
  | c :: rest => (cutAtGap rest).map (fun p => (c :: p.1, p.2))
  | [] => none

/-- As `groups?`, where there may be none. -/
def groupsOrNone? (mayEndInBytes : Bool) (text : List Char) : Option (List Nat) :=
  if text.isEmpty then some [] else groups? mayEndInBytes text

/-- The eight groups that a text writes. -/
def address128? (text : List Char) : Option (List Nat) :=
  match cutAtGap text with
  | none => (groups? true text).filter (fun groups => groups.length == 8)
  | some (front, behind) => do
    let front ← groupsOrNone? false front
    let behind ← groupsOrNone? true behind
    let count := front.length + behind.length
    if count < 8 then some (front ++ List.replicate (8 - count) 0 ++ behind) else none

/-- How many zeros follow from a place on. -/
def zerosFrom (groups : List Nat) (i : Nat) : Nat :=
  ((groups.drop i).takeWhile (· == 0)).length

/-- The first place from which the most zeros follow. -/
def longestZeros (groups : List Nat) : Nat :=
  (List.range groups.length).foldl
    (fun best i => if zerosFrom groups best < zerosFrom groups i then i else best) 0

def groupTexts (groups : List Nat) : List Char :=
  Text.join ':' (groups.map (fun g => Nat.toDigits 16 g))

/-- The text of eight groups. A single zero is not left out. -/
def address128Text (groups : List Nat) : List Char :=
  let start := longestZeros groups
  let count := zerosFrom groups start
  if count < 2 then groupTexts groups
  else groupTexts (groups.take start) ++ "::".toList ++ groupTexts (groups.drop (start + count))

end UiSchema.Url
