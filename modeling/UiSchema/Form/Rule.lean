import UiSchema.Form.Field
import UiSchema.Text.Blank
import UiSchema.Text.Pieces

/-!
# Validation rules

The rules of a field follow from its schema. Null, the empty text and the empty list count as no
value; only the required rule looks at those, every other rule passes them.
-/

set_option autoImplicit false

namespace UiSchema

inductive ValidationRule where
  | required (message : String)
  | email (message : String)
  | minLength (min : Binary64) (message : String)
  | maxLength (max : Binary64) (message : String)
  | min (min : Binary64) (message : String)
  | max (max : Binary64) (message : String)

/-- No value: absent, null, an empty text or an empty list. -/
def isEmptyValue : Option Json → Bool
  | none => true
  | some .null => true
  | some (.str s) => s == ""
  | some (.arr items) => items.isEmpty
  | some _ => false

namespace ValidationRule

def message : ValidationRule → String
  | required m => m
  | email m => m
  | minLength _ m => m
  | maxLength _ m => m
  | min _ m => m
  | max _ m => m

/-- A character that may stand in either part of an address. -/
def isAddressChar (c : Char) : Bool := !Text.isBlank c && c != '@'

/-- Text around one `@`, without white space, and with a dot inside the part behind it. -/
def isEmail (cs : List Char) : Bool :=
  match Text.cutOnce '@' cs with
  | none => false
  | some (user, domain) =>
    !user.isEmpty && user.all isAddressChar && domain.all isAddressChar &&
      (domain.drop 1).dropLast.contains '.'

/-- The characters of a text, or the items of a list. -/
def lengthOf? : Json → Option Binary64
  | .str s => some (Binary64.ofInt s.toList.length)
  | .arr items => some (Binary64.ofInt items.length)
  | _ => none

/-- Whether a value that is not empty passes. -/
def accepts (v : Json) : ValidationRule → Bool
  | required _ => true
  | email _ => match v with
    | .str s => isEmail s.toList
    | _ => false
  | minLength bound _ => (lengthOf? v).any (fun n => !n.lt bound)
  | maxLength bound _ => (lengthOf? v).any (fun n => !bound.lt n)
  | min bound _ => v.number?.any (fun n => !n.lt bound)
  | max bound _ => v.number?.any (fun n => !bound.lt n)

/-- Whether a value, present or not, passes. -/
def passes (r : ValidationRule) (value : Option Json) : Bool :=
  match r with
  | required _ => !isEmptyValue value
  | r => if isEmptyValue value then true else value.any (fun v => r.accepts v)

def boundText (x : Binary64) : String := DecimalStyle.message.text x

def toJson : ValidationRule → Json
  | required m => .obj [("rule", .str "required"), ("message", .str m)]
  | email m => .obj [("rule", .str "email"), ("message", .str m)]
  | minLength x m => .obj [("rule", .str "minLength"), ("min", .float x), ("message", .str m)]
  | maxLength x m => .obj [("rule", .str "maxLength"), ("max", .float x), ("message", .str m)]
  | min x m => .obj [("rule", .str "min"), ("min", .float x), ("message", .str m)]
  | max x m => .obj [("rule", .str "max"), ("max", .float x), ("message", .str m)]

end ValidationRule

namespace FieldSchema

/-- A numeric bound among the properties. -/
def bound? (f : FieldSchema) (key : String) : Option Binary64 :=
  (f.property? key).bind Json.number?

/-- The rules that a schema implies, in the order they are reported. -/
def rules (f : FieldSchema) : List ValidationRule :=
  let required :=
    if f.required then [ValidationRule.required (f.label ++ " is required")] else []
  let email :=
    if (f.property? "email").isSome then [ValidationRule.email "Enter a valid email"] else []
  let bounded (key : String) (rule : Binary64 → String → ValidationRule)
      (text : String → String) : List ValidationRule :=
    match f.bound? key with
    | none => []
    | some x => [rule x (f.label ++ text (ValidationRule.boundText x))]
  required ++ email ++
    bounded "minLength" .minLength (fun x => " must be at least " ++ x ++ " characters") ++
    bounded "maxLength" .maxLength (fun x => " must be at most " ++ x ++ " characters") ++
    bounded "min" .min (fun x => " must be ≥ " ++ x) ++
    bounded "max" .max (fun x => " must be ≤ " ++ x)

end FieldSchema

end UiSchema
