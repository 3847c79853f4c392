import UiSchema.Json.Basic
import UiSchema.Text.Pieces

/-!
# Schemas of documents

A schema document describes a type by the types it refers to. It is written as a value whose
keywords stand in a fixed order: those that identify it, then all others ascending, and the
definitions of other types last. A document holds the definitions that can be reached from its root.
-/

set_option autoImplicit false

namespace UiSchema.JsonSchema

/-- The shape of a value. -/
inductive Shape where
  | anything
  | text
  | flag
  | number
  | integer (format : String) (natural : Bool)
  /-- any object -/
  | properties
  | list (item : Shape)
  | map (value : Shape)
  | named (name : String)
  | nullable (shape : Shape)

structure Field where
  name : String
  shape : Shape
  description : Option String := none
  fallback : Option Json := none
  required : Bool := false

inductive Definition where
  /-- an object of fields; an exact one has no others -/
  | record (exact : Bool) (fields : List Field)
  | choice (names : List String)
  /-- one of several names, some of them with a description -/
  | describedChoice (plain : List String) (described : List (String × String))
  /-- one of several shapes, each with a description or none -/
  | union (alternatives : List (Option String × Shape))

structure TypeSchema where
  name : String
  description : Option String := none
  definition : Definition

abbrev Keywords := List (String × Json)

def leadingKeywords : List String :=
  ["$schema", "title", "description", "type", "format", "properties"]

def trailingKeyword : String := "$defs"

/-- The keywords in the order they are written. -/
def inOrder (keywords : Keywords) : Keywords :=
  let leading := leadingKeywords.filterMap (fun k => (keywords.lookup k).map (fun v => (k, v)))
  let others := keywords.filter (fun e => !leadingKeywords.contains e.1 && e.1 != trailingKeyword)
  leading ++ Dict.ofList others ++ keywords.filter (fun e => e.1 == trailingKeyword)

def typeKeyword (names : List String) : Keywords :=
  match names with
  | [name] => [("type", .str name)]
  | names => [("type", .arr (names.map Json.str))]

/-- A reference to a type: to the document itself if that describes the type. -/
def reference (root name : String) : String := if name = root then "#" else "#/$defs/" ++ name

mutual

/-- The keywords of a shape in a document about `root`. -/
def Shape.keywords (root : String) : Shape → Keywords
  | .anything => []
  | .text => typeKeyword ["string"]
  | .flag => typeKeyword ["boolean"]
  | .number => typeKeyword ["number"] ++ [("format", .str "double")]
  | .integer format natural =>
    typeKeyword ["integer"] ++ ("format", .str format) ::
      (if natural then [("minimum", Json.int 0)] else [])
  | .properties => typeKeyword ["object"] ++ [("additionalProperties", .bool true)]
  | .list item => typeKeyword ["array"] ++ [("items", .obj (inOrder (Shape.keywords root item)))]
  | .map value =>
    typeKeyword ["object"] ++
      [("additionalProperties", .obj (inOrder (Shape.keywords root value)))]
  | .named name => [("$ref", .str (reference root name))]
  | .nullable shape => Shape.nullableKeywords root shape

/-- The keywords of a shape or null. -/
def Shape.nullableKeywords (root : String) : Shape → Keywords
  | .named name =>
    [("anyOf", .arr [.obj [("$ref", .str (reference root name))], .obj (typeKeyword ["null"])])]
  | .nullable shape => Shape.nullableKeywords root shape
  | shape => (Shape.keywords root shape).map (fun e =>
      match e with
      | ("type", .str name) => ("type", .arr [.str name, .str "null"])
      | e => e)

end

def describe (description : Option String) : Keywords :=
  (description.map (fun s => ("description", Json.str s))).toList

/-- A shape with other keywords beside it; one without any is the schema that all values have. -/
def schemaOf (keywords : Keywords) : Json :=
  if keywords.isEmpty then .bool true else .obj (inOrder keywords)

def Field.schema (root : String) (f : Field) : Json :=
  schemaOf (describe f.description ++ f.shape.keywords root ++
    (f.fallback.map (fun v => ("default", v))).toList)

def Definition.keywords (root : String) : Definition → Keywords
  | .record exact fields =>
    let required := (fields.filter (·.required)).map (fun f => Json.str f.name)
    typeKeyword ["object"] ++
      [("properties", .obj (Dict.ofList (fields.map (fun f => (f.name, f.schema root)))))] ++
      (if exact then [("additionalProperties", Json.bool false)] else []) ++
      (if required.isEmpty then [] else [("required", .arr required)])
  | .choice names => typeKeyword ["string"] ++ [("enum", .arr (names.map Json.str))]
  | .describedChoice plain described =>
    let first := Json.obj (inOrder (typeKeyword ["string"] ++
      [("enum", .arr (plain.map Json.str))]))
    let others := described.map (fun e => Json.obj (inOrder (describe (some e.2) ++
      typeKeyword ["string"] ++ [("const", .str e.1)])))
    [("oneOf", .arr (first :: others))]
  | .union alternatives =>
    [("anyOf", .arr (alternatives.map (fun a =>
      schemaOf (describe a.1 ++ a.2.keywords root))))]

/-- The types that a shape names. -/
def Shape.names : Shape → List String
  | .list item => item.names
  | .map value => value.names
  | .nullable shape => shape.names
  | .named name => [name]
  | _ => []

def Definition.names : Definition → List String
  | .record _ fields => fields.flatMap (fun f => f.shape.names)
  | .union alternatives => alternatives.flatMap (fun a => a.2.names)
  | _ => []

def TypeSchema.keywords (root : String) (t : TypeSchema) : Keywords :=
  describe t.description ++ t.definition.keywords root

def find? (types : List TypeSchema) (name : String) : Option TypeSchema :=
  types.find? (fun t => t.name == name)

/-- The names that can be reached from those given in a number of steps. -/
def reachable (types : List TypeSchema) : Nat → List String → List String
  | 0, names => names
  | steps + 1, names =>
    let next := names.flatMap (fun n => ((find? types n).map (·.definition.names)).getD [])
    reachable types steps (next.foldl (fun all n => if all.contains n then all else n :: all) names)

/-- The document about one of several types, with the definitions of the types it needs. -/
def document (types : List TypeSchema) (root : TypeSchema) : Json :=
  let needed := (reachable types types.length root.definition.names).filter (· != root.name)
  let definitions := (needed.filterMap (find? types)).map (fun t =>
    (t.name, Json.obj (inOrder (t.keywords root.name))))
  .obj (inOrder ([("$schema", .str "https://json-schema.org/draft/2020-12/schema"),
    ("title", .str root.name)] ++ root.keywords root.name ++
    [("$defs", .obj (Dict.ofList definitions))]))

end UiSchema.JsonSchema
