import UiSchema.Form.Path
import UiSchema.Form.Rule
import UiSchema.Node.Record

/-!
# Compiled fields

Compiling puts the fields of a form in display order, binds each to its path, derives its rules and
gives it its initial value. Groups and repetitions are compiled recursively from the lists in their
properties. Repetitions can be added and removed afterwards; removing one renumbers those behind it.
-/

set_option autoImplicit false

namespace UiSchema

structure LeafField where
  path : FieldPath
  name : String
  label : String
  kind : InputKind
  required : Bool
  initialValue : Option Json
  rules : List ValidationRule
  properties : Option Properties

def LeafField.fullName (f : LeafField) : String := f.path.text

structure GroupField (κ : Type) where
  path : FieldPath
  name : String
  label : String
  fields : List κ

/-- A list of repetitions of the item fields, which are kept to compile further ones. -/
structure RepeatGroup (κ : Type) where
  path : FieldPath
  name : String
  label : String
  itemFields : List FieldSchema
  rows : List (List κ)

inductive CompiledField where
  | leaf (f : LeafField)
  | group (g : GroupField CompiledField)
  | repeated (g : RepeatGroup CompiledField)

namespace CompiledField

def path : CompiledField → FieldPath
  | .leaf f => f.path
  | .group g => g.path
  | .repeated g => g.path

end CompiledField

/-- Where initial values come from. -/
inductive Seed where
  /-- values by field name, and a field's own value where there is none -/
  | values (given : Option Properties)
  /-- no initial values at all -/
  | blank

namespace Seed

def get? (seed : Seed) (f : FieldSchema) : Option Json :=
  match seed with
  | .values (some given) => Dict.get? given f.name
  | _ => none

def initial? (seed : Seed) (f : FieldSchema) : Option Json :=
  match seed with
  | .values _ => (seed.get? f).or f.value
  | .blank => none

/-- The seed of the fields inside a group. -/
def nested (seed : Seed) (f : FieldSchema) : Seed :=
  match seed with
  | .values _ => .values ((seed.get? f).bind Json.fields?)
  | .blank => .blank

/-- The seed of the fields inside a row. -/
def ofRow (row : Json) : Seed := .values row.fields?

end Seed

namespace FieldSchema

/-- How deep the lists in a field's properties can be nested. -/
def nesting (f : FieldSchema) : Nat :=
  match f.properties with
  | none => 0
  | some properties => Json.depthFields properties + 1

def nestingOf : List FieldSchema → Nat
  | [] => 0
  | f :: rest => max f.nesting (nestingOf rest)

abbrev Compiler := List FieldSchema → FieldPath → Seed → Except SchemaError (List CompiledField)

/-- Compiles one row for each of the values, numbered from `index`. -/
def compileRows (compile : Compiler) (fields : List FieldSchema) (path : FieldPath) :
    Nat → List Json → Except SchemaError (List (List CompiledField))
  | _, [] => .ok []
  | index, row :: rest => do
    let first ← compile fields (path.row index) (.ofRow row)
    let others ← compileRows compile fields path (index + 1) rest
    .ok (first :: others)

/-- Compiles a field; `compile` is used for the lists inside it. -/
def compileField (compile : Compiler) (parent : FieldPath) (seed : Seed) (f : FieldSchema) :
    Except SchemaError CompiledField :=
  let path := parent.child f.name
  match f.kind with
  | .object => do
    let nested ← f.nestedFields .fields path.text
    let fields ← compile nested path (seed.nested f)
    .ok (.group ⟨path, f.name, f.label, fields⟩)
  | .objectArray => do
    let nested ← f.nestedFields .itemFields path.text
    let items := sortByOrder nested
    let rows ← compileRows compile items path 0 (((seed.initial? f).bind Json.items?).getD [])
    .ok (.repeated ⟨path, f.name, f.label, items, rows⟩)
  | kind =>
    .ok (.leaf ⟨path, f.name, f.label, kind, f.required, seed.initial? f, f.rules, f.properties⟩)

def compileAll (one : FieldSchema → Except SchemaError CompiledField) :
    List FieldSchema → Except SchemaError (List CompiledField)
  | [] => .ok []
  | f :: rest => do
    let first ← one f
    let others ← compileAll one rest
    .ok (first :: others)

/-- Compiles lists nested at most `depth` deep. Fields of nesting zero have no properties, hence no
lists inside them. -/
def compileWithin : Nat → Compiler
  | 0, fields, parent, seed =>
    compileAll (compileField (fun _ path _ => .error (.missingNested path.text .fields)) parent seed)
      (sortByOrder fields)
  | depth + 1, fields, parent, seed =>
    compileAll (compileField (compileWithin depth) parent seed) (sortByOrder fields)

/-- Compiles fields below a path. -/
def compile (fields : List FieldSchema) (parent : FieldPath) (seed : Seed) :
    Except SchemaError (List CompiledField) :=
  compileWithin (nestingOf fields) fields parent seed

end FieldSchema

namespace CompiledField

mutual

/-- Writes a row number into the path of a field and of all fields inside it. -/
def reindex (depth i : Nat) : CompiledField → CompiledField
  | .leaf ⟨path, name, label, kind, required, initial, rules, properties⟩ =>
    .leaf ⟨path.setIndex depth i, name, label, kind, required, initial, rules, properties⟩
  | .group ⟨path, name, label, fields⟩ =>
    .group ⟨path.setIndex depth i, name, label, reindexList depth i fields⟩
  | .repeated ⟨path, name, label, itemFields, rows⟩ =>
    .repeated ⟨path.setIndex depth i, name, label, itemFields, reindexRows depth i rows⟩

def reindexList (depth i : Nat) : List CompiledField → List CompiledField
  | [] => []
  | f :: rest => reindex depth i f :: reindexList depth i rest

def reindexRows (depth i : Nat) : List (List CompiledField) → List (List CompiledField)
  | [] => []
  | row :: rest => reindexList depth i row :: reindexRows depth i rest

end

mutual

/-- The leaves of a field in display order. -/
def leaves : CompiledField → List LeafField
  | .leaf f => [f]
  | .group ⟨_, _, _, fields⟩ => leavesOf fields
  | .repeated ⟨_, _, _, _, rows⟩ => leavesOfRows rows

def leavesOf : List CompiledField → List LeafField
  | [] => []
  | f :: rest => leaves f ++ leavesOf rest

def leavesOfRows : List (List CompiledField) → List LeafField
  | [] => []
  | row :: rest => leavesOf row ++ leavesOfRows rest

end

end CompiledField

namespace RepeatGroup

/-- The rows behind the one removed, numbered from `i`. -/
def renumber (depth : Nat) : Nat → List (List CompiledField) → List (List CompiledField)
  | _, [] => []
  | i, row :: rest => CompiledField.reindexList depth i row :: renumber depth (i + 1) rest

/-- Adds a repetition without initial values, and gives its index. -/
def add (g : RepeatGroup CompiledField) :
    Except SchemaError (Nat × RepeatGroup CompiledField) := do
  let index := g.rows.length
  let row ← FieldSchema.compile g.itemFields (g.path.row index) .blank
  .ok (index, { g with rows := g.rows ++ [row] })

/-- Removes a repetition; those behind it move up. Without one at the index nothing changes. -/
def remove (g : RepeatGroup CompiledField) (index : Nat) : Bool × RepeatGroup CompiledField :=
  if index < g.rows.length then
    (true, { g with
      rows := g.rows.take index ++ renumber g.path.length index (g.rows.drop (index + 1)) })
  else (false, g)

end RepeatGroup

namespace CompiledField

/-- An action on a repeat group that also answers something. -/
abbrev RepeatAction (α : Type) := RepeatGroup CompiledField → α × RepeatGroup CompiledField

mutual

/-- Acts on the first repeat group with a full name; nothing if there is none. -/
def actOnRepeat {α : Type} (name : String) (act : RepeatAction α) :
    CompiledField → Option (α × CompiledField)
  | .leaf _ => none
  | .group ⟨path, own, label, fields⟩ =>
    (actOnRepeatIn name act fields).map
      (fun p => (p.1, .group ⟨path, own, label, p.2⟩))
  | .repeated ⟨path, own, label, itemFields, rows⟩ =>
    if path.text = name then
      let (answer, g) := act ⟨path, own, label, itemFields, rows⟩
      some (answer, .repeated g)
    else
      (actOnRepeatInRows name act rows).map
        (fun p => (p.1, .repeated ⟨path, own, label, itemFields, p.2⟩))

def actOnRepeatIn {α : Type} (name : String) (act : RepeatAction α) :
    List CompiledField → Option (α × List CompiledField)
  | [] => none
  | f :: rest =>
    match actOnRepeat name act f with
    | some (answer, f) => some (answer, f :: rest)
    | none => (actOnRepeatIn name act rest).map (fun p => (p.1, f :: p.2))

def actOnRepeatInRows {α : Type} (name : String) (act : RepeatAction α) :
    List (List CompiledField) → Option (α × List (List CompiledField))
  | [] => none
  | row :: rest =>
    match actOnRepeatIn name act row with
    | some (answer, row) => some (answer, row :: rest)
    | none => (actOnRepeatInRows name act rest).map (fun p => (p.1, row :: p.2))

end

/-- The first repeat group with a full name. -/
def repeat? (fields : List CompiledField) (name : String) : Option (RepeatGroup CompiledField) :=
  (actOnRepeatIn name (fun g => (g, g)) fields).map Prod.fst

def kindName : CompiledField → String
  | .leaf _ => "leaf"
  | .group _ => "group"
  | .repeated _ => "repeat"

def pathJson (p : FieldPath) : Json := .str p.text

def leafEntries (f : LeafField) : List (String × Json) :=
  [("path", pathJson f.path), ("name", .str f.name), ("label", .str f.label),
    ("inputKind", .str f.kind.name), ("required", .bool f.required)] ++
  (f.initialValue.map (fun v => ("initialValue", v))).toList ++
  (if f.rules.isEmpty then [] else [("rules", .arr (f.rules.map ValidationRule.toJson))]) ++
  (f.properties.map (fun p => ("properties", Json.obj p))).toList

mutual

/-- What is written of a field beside its kind. -/
def entries : CompiledField → List (String × Json)
  | .leaf f => leafEntries f
  | .group ⟨path, name, label, fields⟩ =>
    [("path", pathJson path), ("name", .str name), ("label", .str label),
      ("fields", .arr (toJsonList fields))]
  | .repeated ⟨path, name, label, _, rows⟩ =>
    [("path", pathJson path), ("name", .str name), ("label", .str label),
      ("items", .arr (toJsonRows rows))]

def toJsonList : List CompiledField → List Json
  | [] => []
  | f :: rest => .obj (("kind", .str f.kindName) :: entries f) :: toJsonList rest

def toJsonRows : List (List CompiledField) → List Json
  | [] => []
  | row :: rest => .arr (toJsonList row) :: toJsonRows rest

end

def toJson (f : CompiledField) : Json := .obj (("kind", .str f.kindName) :: entries f)

end CompiledField

end UiSchema
