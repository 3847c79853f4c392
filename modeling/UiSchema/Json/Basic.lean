import UiSchema.Binary64.Basic
import UiSchema.Dict

/-!
# Document values

`Json` is the value that documents, submissions and responses are made of. Integers and binary
floating-point numbers are different values. An object is a list of entries; a *canonical* value
has ascending keys in every object, and `sorted` gives the canonical form of any value. Encoders
may list the fields of a structure in declared order instead, which is the order they print in.
-/

set_option autoImplicit false

namespace UiSchema

inductive Json where
  | null
  | bool (b : Bool)
  | int (n : Int)
  | float (x : Binary64)
  | str (s : String)
  | arr (items : List Json)
  | obj (fields : List (String × Json))

namespace Json

instance : Inhabited Json := ⟨.null⟩

mutual

/-- Equality of values: floating-point numbers compare by value, and an integer never equals one. -/
def equal : Json → Json → Bool
  | .null, .null => true
  | .bool a, .bool b => a == b
  | .int m, .int n => m == n
  | .float x, .float y => x.sameValue y
  | .str s, .str t => s == t
  | .arr xs, .arr ys => equalItems xs ys
  | .obj xs, .obj ys => equalFields xs ys
  | _, _ => false

def equalItems : List Json → List Json → Bool
  | [], [] => true
  | x :: xs, y :: ys => equal x y && equalItems xs ys
  | _, _ => false

def equalFields : List (String × Json) → List (String × Json) → Bool
  | [], [] => true
  | (k, x) :: xs, (l, y) :: ys => k == l && equal x y && equalFields xs ys
  | _, _ => false

end

mutual

/-- The value with the keys of every object in ascending order. -/
def sorted : Json → Json
  | .arr items => .arr (sortedItems items)
  | .obj fields => .obj (sortedFields fields)
  | v => v

def sortedItems : List Json → List Json
  | [] => []
  | x :: xs => sorted x :: sortedItems xs

def sortedFields : List (String × Json) → Dict Json
  | [] => []
  | (k, x) :: xs =>
    let rest := sortedFields xs
    if Dict.contains rest k then rest else Dict.insert rest k (sorted x)

end

mutual

/-- The keys of every object in the value strictly ascend. -/
def Canonical : Json → Prop
  | .arr items => CanonicalItems items
  | .obj fields => Dict.Ascending fields ∧ CanonicalFields fields
  | _ => True

def CanonicalItems : List Json → Prop
  | [] => True
  | x :: xs => Canonical x ∧ CanonicalItems xs

def CanonicalFields : List (String × Json) → Prop
  | [] => True
  | (_, x) :: xs => Canonical x ∧ CanonicalFields xs

end

/-- The value of a field, if the value is an object that has it. -/
def field? (v : Json) (name : String) : Option Json :=
  match v with
  | .obj fields => Dict.get? fields name
  | _ => none

/-- The value of a number as a floating-point number. -/
def number? : Json → Option Binary64
  | .int n => some (Binary64.ofInt n)
  | .float x => some x
  | _ => none

def string? : Json → Option String
  | .str s => some s
  | _ => none

def items? : Json → Option (List Json)
  | .arr items => some items
  | _ => none

def fields? : Json → Option (Dict Json)
  | .obj fields => some fields
  | _ => none

def isNull : Json → Bool
  | .null => true
  | _ => false

end Json

end UiSchema
