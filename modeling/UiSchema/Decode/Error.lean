import UiSchema.Json.Printer
import UiSchema.Text.Quoted

/-!
# Why a value is refused

`DecodeError` says why a value does not have the shape of a structure, `SchemaError` where in a
document the failure stands. A node inside another structure is decoded as a document of its own, so
the two kinds contain each other. The wording is in `message`.
-/

set_option autoImplicit false

namespace UiSchema

/-- The shape that a value should have had. -/
inductive Wanted where
  | text
  | boolean
  | sequence
  | map
  | record (name : String)
  | natural (bits : Nat)
  | integer (bits : Nat)
  | number
  | unit
  | variant
deriving DecidableEq

inductive NestedKey where
  | fields
  | itemFields
deriving DecidableEq

def NestedKey.name : NestedKey → String
  | .fields => "fields"
  | .itemFields => "itemFields"

mutual

inductive DecodeError where
  | unexpected (got : Json) (wanted : Wanted)
  | outOfRange (n : Int) (wanted : Wanted)
  /-- an object stands for a variant only with exactly one key -/
  | notSingleKey
  | unknownField (key : String) (known : List String)
  | missingField (name : String)
  | duplicateField (name : String)
  | unknownVariant (name : String) (known : List String)
  | tooFewItems (given : Nat) (record : String) (count : Nat)
  | tooManyItems (given : Nat)
  | noAlternative (name : String)
  | node (cause : SchemaError)

inductive SchemaError where
  | decode (path : String) (cause : DecodeError)
  | typeMismatch (path : String) (expected : String) (got : Json)
  | missingNested (path : String) (key : NestedKey)
  | unsupported (extension : String)
  | jsonSyntax
  | tomlSyntax

end

instance : Inhabited DecodeError := ⟨.notSingleKey⟩

instance : Inhabited SchemaError := ⟨.jsonSyntax⟩

namespace Wanted

def phrase : Wanted → String
  | .text => "a string"
  | .boolean => "a boolean"
  | .sequence => "a sequence"
  | .map => "a map"
  | .record name => "struct " ++ name
  | .natural bits => "u" ++ String.ofList (Nat.toDigits 10 bits)
  | .integer bits => "i" ++ String.ofList (Nat.toDigits 10 bits)
  | .number => "f64"
  | .unit => "unit"
  | .variant => "string or map"

end Wanted

namespace DecodeError

def ticked (s : String) : String := "`" ++ s ++ "`"

/-- What kind of value was given, with the value itself if it is a scalar. -/
def kindText : Json → String
  | .null => "null"
  | .bool b => "boolean " ++ ticked (if b then "true" else "false")
  | .int n => "integer " ++ ticked (String.ofList (Json.intText n))
  | .float x => "floating point " ++ ticked (Json.float x).compact
  | .str s => "string " ++ Text.quoted s
  | .arr _ => "sequence"
  | .obj _ => "map"

def listed (names : List String) : String :=
  ", ".intercalate (names.map ticked)

/-- The names that would have been accepted. -/
def choiceText : List String → String
  | [a] => ticked a
  | [a, b] => ticked a ++ " or " ++ ticked b
  | names => "one of " ++ listed names

def naturalText (n : Nat) : String := String.ofList (Nat.toDigits 10 n)

def recordText (name : String) (count : Nat) : String :=
  "struct " ++ name ++ " with " ++ naturalText count ++
    (if count = 1 then " element" else " elements")

end DecodeError

mutual

def DecodeError.message : DecodeError → String
  | .unexpected got wanted =>
    "invalid type: " ++ DecodeError.kindText got ++ ", expected " ++ wanted.phrase
  | .outOfRange n wanted =>
    "invalid value: " ++ DecodeError.kindText (.int n) ++ ", expected " ++ wanted.phrase
  | .notSingleKey => "invalid value: map, expected map with a single key"
  | .unknownField key known =>
    "unknown field " ++ DecodeError.ticked key ++ ", expected " ++ DecodeError.choiceText known
  | .missingField name => "missing field " ++ DecodeError.ticked name
  | .duplicateField name => "duplicate field " ++ DecodeError.ticked name
  | .unknownVariant name known =>
    "unknown variant " ++ DecodeError.ticked name ++ ", expected " ++ DecodeError.choiceText known
  | .tooFewItems given record count =>
    "invalid length " ++ DecodeError.naturalText given ++ ", expected " ++
      DecodeError.recordText record count
  | .tooManyItems given =>
    "invalid length " ++ DecodeError.naturalText given ++ ", expected fewer elements in array"
  | .noAlternative name => "data did not match any variant of untagged enum " ++ name
  | .node cause => cause.message

def SchemaError.message : SchemaError → String
  | .decode path cause => "invalid schema at '" ++ path ++ "': " ++ cause.message
  | .typeMismatch path expected got =>
    "type mismatch at '" ++ path ++ "': expected " ++ expected ++ ", got " ++ got.compact
  | .missingNested path key =>
    "field '" ++ path ++ "' requires a '" ++ key.name ++ "' list in its properties"
  | .unsupported extension => "unsupported document extension: " ++ Text.quoted extension
  | .jsonSyntax => "<json syntax error>"
  | .tomlSyntax => "<toml syntax error>"

end

/-- The message of an error, followed by that of its cause. -/
def SchemaError.chain (e : SchemaError) : List String :=
  match e with
  | .decode _ cause => [e.message, cause.message]
  | e => [e.message]

end UiSchema
