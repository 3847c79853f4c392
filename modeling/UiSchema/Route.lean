import UiSchema.Json.Printer
import UiSchema.Text.Pieces
import UiSchema.Text.Reader
import UiSchema.Text.Uppercase

/-!
# Routes

A route template holds placeholders: a colon and the longest run of letters, digits, underscores and
dots behind it. `Template.ofText` cuts a text into such placeholders and the characters between
them; filling it in replaces every placeholder at once, so inserted text is never read again.
-/

set_option autoImplicit false

namespace UiSchema

namespace Route

/-- A part of a template: a character that stands for itself, or a placeholder. -/
inductive Part where
  | char (c : Char)
  | slot (name : List Char)
deriving DecidableEq

abbrev Template := List Part

def isNameChar (c : Char) : Bool := c.isAlphanum || c == '_' || c == '.'

/-- The parts of a text behind its longest front run of name characters, and that run. -/
def cut : List Char → List Char × Template
  | [] => ([], [])
  | c :: rest =>
    let (run, parts) := cut rest
    if isNameChar c then (c :: run, parts)
    else if c == ':' && !run.isEmpty then ([], .slot run :: parts)
    else ([], .char c :: (run.map Part.char ++ parts))

def Template.ofText (text : List Char) : Template :=
  let (run, parts) := cut text
  run.map Part.char ++ parts

def Part.text : Part → List Char
  | .char c => [c]
  | .slot name => ':' :: name

/-- The text with every placeholder replaced. -/
def Template.fill (t : Template) (f : List Char → List Char) : List Char :=
  t.flatMap (fun
    | .char c => [c]
    | .slot name => f name)

/-- An index into a list: digits, perhaps behind a plus, that fit sixty-four bits. -/
def index? (s : String) : Option Nat :=
  let cs := match s.toList with
    | '+' :: rest => rest
    | cs => cs
  match Text.readDigits cs with
  | (d :: ds, []) =>
    let n := Text.natOfDigits 10 (d :: ds)
    if n < Nat.pow 2 64 then some n else none
  | _ => none

/-- The part of a value under one name: a field of an object or an item of a list. -/
def member? (v : Json) (name : String) : Option Json :=
  match v with
  | .obj fields => Dict.get? fields name
  | .arr items => (index? name).bind (fun i => items[i]?)
  | _ => none

/-- Follows names through a value. -/
def follow (v : Json) : List String → Option Json
  | [] => some v
  | name :: rest => (member? v name).bind (fun part => follow part rest)

/-- The value at a dotted path. -/
def lookup (v : Json) (path : String) : Option Json := follow v (Text.splitOn '.' path)

/-- The text of a string, number or boolean. -/
def scalarText? : Json → Option String
  | .str s => some s
  | .int n => some (String.ofList (Json.intText n))
  | .float x => some (Json.float x).compact
  | .bool b => some (if b then "true" else "false")
  | _ => none

/-- Where parameters are read from: the value at the payload path, or the whole. -/
def parameterSource (params : Json) (payloadPath : Option String) : Json :=
  (payloadPath.bind (lookup params)).getD params

/-- The value of a placeholder: at its name as a dotted path, or under it as a key. -/
def parameter? (source : Json) (name : String) : Option Json :=
  (lookup source name).or (source.field? name)

/-- The text that a placeholder is replaced by; without a scalar value it stays as it is. -/
def slotText (source : Json) (name : List Char) : List Char :=
  match (parameter? source (String.ofList name)).bind scalarText? with
  | some text => text.toList
  | none => ':' :: name

/-- The template with its placeholders filled in from parameters. -/
def resolve (template : String) (params : Json) (payloadPath : Option String) : String :=
  String.ofList
    ((Template.ofText template.toList).fill (slotText (parameterSource params payloadPath)))

def slugChar (c : Char) : Char := if c = '.' then '_' else c

/-- The route with the dots of its placeholders replaced by underscores. -/
def slugged (route : String) : String :=
  String.ofList ((Template.ofText route.toList).fill (fun name => ':' :: name.map slugChar))

/-- Stores a value in nested objects; what is no object on the way is replaced by one. -/
def insertAt : List String → Json → Dict Json → Dict Json
  | [], _, root => root
  | [last], value, root => Dict.insert root last value
  | name :: rest, value, root =>
    let inner := match Dict.get? root name with
      | some (.obj fields) => fields
      | _ => []
    Dict.insert root name (.obj (insertAt rest value inner))

/-- The nested object of flat parameters whose names are cut at underscores. -/
def nestSlugged (flat : Dict Json) : Json :=
  .obj (flat.foldl (fun root e => insertAt (Text.splitOn '_' e.1) e.2 root) [])

structure Breadcrumb where
  title : String
  path : String
deriving DecidableEq

/-- The parts of a path that are not empty. -/
def segments (path : String) : List String := (Text.splitOn '/' path).filter (· != "")

def capitalized (s : String) : String := String.ofList (Text.capitalize s.toList)

/-- The crumbs of segments below a path. -/
def crumbsBelow (parent : String) : List String → List Breadcrumb
  | [] => []
  | s :: rest =>
    let path := parent ++ "/" ++ s
    ⟨capitalized s, path⟩ :: crumbsBelow path rest

/-- One crumb for every segment of a path, with the path up to it. -/
def breadcrumbs (path : String) : List Breadcrumb := crumbsBelow "" (segments path)

end Route

end UiSchema
