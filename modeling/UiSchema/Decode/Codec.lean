import UiSchema.Decode.Error

/-!
# Codecs of plain values

A codec reads a type from a value and writes it as one. An integer is accepted where a number is
wanted, a number with a point never where an integer is.
-/

set_option autoImplicit false

namespace UiSchema

structure Codec (α : Type) where
  decode : Json → Except DecodeError α
  encode : α → Json

namespace Codec

variable {α : Type}

def raw : Codec Json where
  decode v := .ok v
  encode v := v

def text : Codec String where
  decode
    | .str s => .ok s
    | v => .error (.unexpected v .text)
  encode := .str

def bool : Codec Bool where
  decode
    | .bool b => .ok b
    | v => .error (.unexpected v .boolean)
  encode := .bool

def number : Codec Binary64 where
  decode
    | .int n => .ok (Binary64.ofInt n)
    | .float x => .ok x
    | v => .error (.unexpected v .number)
  encode := .float

/-- Integers of at least `low` and below `high`. -/
def inRange (wanted : Wanted) (low high : Int) : Codec Int where
  decode
    | .int n => if low ≤ n ∧ n < high then .ok n else .error (.outOfRange n wanted)
    | v => .error (.unexpected v wanted)
  encode := .int

def int32 : Codec Int := inRange (.integer 32) (-0x80000000) 0x80000000

/-- Natural numbers of a number of bits. -/
def natural (bits : Nat) : Codec Nat where
  decode v := ((inRange (.natural bits) 0 (Nat.pow 2 bits)).decode v).map Int.toNat
  encode n := .int n

/-- Decodes every item, stopping at the first that is refused. -/
def decodeItems (decode : Json → Except DecodeError α) : List Json → Except DecodeError (List α)
  | [] => .ok []
  | v :: vs => do
    let a ← decode v
    let rest ← decodeItems decode vs
    .ok (a :: rest)

def list (item : Codec α) : Codec (List α) where
  decode
    | .arr items => decodeItems item.decode items
    | v => .error (.unexpected v .sequence)
  encode items := .arr (items.map item.encode)

def decodeEntries (decode : Json → Except DecodeError α) :
    Dict Json → Except DecodeError (Dict α)
  | [] => .ok []
  | (k, v) :: rest => do
    let a ← decode v
    let entries ← decodeEntries decode rest
    .ok ((k, a) :: entries)

def dict (value : Codec α) : Codec (Dict α) where
  decode
    | .obj fields => decodeEntries value.decode fields
    | v => .error (.unexpected v .map)
  encode d := .obj (Dict.mapValues value.encode d)

/-- The properties of a node or field: any object. -/
def properties : Codec (Dict Json) where
  decode
    | .obj fields => .ok fields
    | v => .error (.unexpected v .map)
  encode := .obj

/-- A value out of a list of names. It may also stand as the only key of an object, over null. -/
def variant (names : List (String × α)) (name : α → String) : Codec α where
  decode v :=
    let find (s : String) : Except DecodeError α :=
      match names.lookup s with
      | some a => .ok a
      | none => .error (.unknownVariant s (names.map Prod.fst))
    match v with
    | .str s => find s
    | .obj [(s, content)] => do
      let a ← find s
      match content with
      | .null => .ok a
      | other => .error (.unexpected other .unit)
    | .obj _ => .error .notSingleKey
    | other => .error (.unexpected other .variant)
  encode a := .str (name a)

end Codec

end UiSchema
