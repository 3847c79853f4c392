import UiSchema.Json.Printer
import UiSchema.Text.Pieces

/-!
# Field paths

A field is found by a path of keys and row indices, whose text joins the steps with dots. The same
paths address values inside a nested value: `readAt` follows keys through objects and indices
through arrays, and `writeAt` makes the containers that the path needs.
-/

set_option autoImplicit false

namespace UiSchema

inductive Step where
  | key (name : String)
  | index (i : Nat)
deriving DecidableEq

namespace Step

def text : Step → String
  | .key name => name
  | .index i => String.ofList (Nat.toDigits 10 i)

end Step

abbrev FieldPath := List Step

namespace FieldPath

def text (p : FieldPath) : String := Text.joinWith "." (p.map Step.text)

def child (p : FieldPath) (name : String) : FieldPath := p ++ [.key name]

def row (p : FieldPath) (i : Nat) : FieldPath := p ++ [.index i]

/-- Replaces the index at a depth; a key there, or a shorter path, stays as it is. -/
def setIndex : FieldPath → Nat → Nat → FieldPath
  | [], _, _ => []
  | .index _ :: rest, 0, i => .index i :: rest
  | .key name :: rest, 0, _ => .key name :: rest
  | step :: rest, depth + 1, i => step :: setIndex rest depth i

end FieldPath

namespace Json

/-- The part of a value that one step leads to. -/
def step? (v : Json) : Step → Option Json
  | .key name => v.field? name
  | .index i => match v with
    | .arr items => items[i]?
    | _ => none

/-- The value at a path. -/
def readAt (v : Json) : FieldPath → Option Json
  | [] => some v
  | step :: rest => (v.step? step).bind (fun part => readAt part rest)

def objectFields (v : Json) : Dict Json :=
  match v with
  | .obj fields => fields
  | _ => []

def arrayItems (v : Json) : List Json :=
  match v with
  | .arr items => items
  | _ => []

/-- The items with one of them changed; the list is filled up with null to reach it. -/
def modifyItem (change : Json → Json) : Nat → List Json → List Json
  | 0, [] => [change .null]
  | 0, v :: rest => change v :: rest
  | i + 1, [] => .null :: modifyItem change i []
  | i + 1, v :: rest => v :: modifyItem change i rest

/-- The value with another stored at a path. What stands where a container is needed is replaced by
an empty one. -/
def writeAt (slot : Json) : FieldPath → Json → Json
  | [], value => value
  | .key name :: rest, value =>
    let fields := slot.objectFields
    .obj (Dict.insert fields name (writeAt ((Dict.get? fields name).getD .null) rest value))
  | .index i :: rest, value =>
    .arr (modifyItem (fun item => writeAt item rest value) i slot.arrayItems)

end Json

end UiSchema
