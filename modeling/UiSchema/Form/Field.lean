import UiSchema.Node.Basic

/-!
# Form fields

A form is a list of fields and the action that its values are posted to. A field of kind `object`
holds a group of fields under `properties.fields`, one of kind `object[]` a list of repetitions of
the fields under `properties.itemFields`. Fields are shown in ascending order of their order keys;
fields with one key keep the order they are declared in.
-/

set_option autoImplicit false

namespace UiSchema

inductive InputKind where
  | input
  | password
  | number
  | select
  | treeSelect
  | switch
  | date
  | textarea
  | object
  | objectArray
  | checkbox
  | nestedCheckbox
  | lookup
  | button
deriving DecidableEq

namespace InputKind

def name : InputKind → String
  | input => "input"
  | password => "password"
  | number => "number"
  | select => "select"
  | treeSelect => "treeselect"
  | switch => "switch"
  | date => "date"
  | textarea => "textarea"
  | object => "object"
  | objectArray => "object[]"
  | checkbox => "checkbox"
  | nestedCheckbox => "nestedcheckbox"
  | lookup => "lookup"
  | button => "button"

def all : List InputKind :=
  [input, password, number, select, treeSelect, switch, date, textarea, object, objectArray,
    checkbox, nestedCheckbox, lookup, button]

def codec : Codec InputKind := .variant (all.map (fun k => (k.name, k))) name

end InputKind

structure FieldSchema where
  name : String := ""
  label : String := ""
  kind : InputKind := .input
  required : Bool := false
  order : Option Binary64 := none
  properties : Option Properties := none
  value : Option Json := none

namespace FieldSchema

def ofName (name : String) (kind : InputKind) : FieldSchema := { name := name, kind := kind }

def withLabel (f : FieldSchema) (label : String) : FieldSchema := { f with label := label }

def withRequired (f : FieldSchema) (flag : Bool) : FieldSchema := { f with required := flag }

def withOrder (f : FieldSchema) (order : Binary64) : FieldSchema := { f with order := some order }

def withProperties (f : FieldSchema) (properties : Properties) : FieldSchema :=
  { f with properties := some properties }

def withValue (f : FieldSchema) (value : Json) : FieldSchema := { f with value := some value }

def record : Record FieldSchema where
  name := "FieldSchema"
  exact := false
  fields := [
    .mandatory "name" .text (fun a s => { s with name := a }) (·.name),
    .defaulted "label" .text (fun a s => { s with label := a }) (·.label),
    (.defaulted "inputType" InputKind.codec (fun a s => { s with kind := a }) (·.kind)
      : RecordField FieldSchema).withAlias "inputKind",
    .defaulted "required" .bool (fun a s => { s with required := a }) (·.required),
    .optional "order" .number (fun a s => { s with order := a }) (·.order),
    .optional "properties" .properties (fun a s => { s with properties := a }) (·.properties),
    .optional "value" .raw (fun a s => { s with value := a }) (·.value)]
  initial := {}

def codec : Codec FieldSchema := record.codec

/-- The order key; zero when it is absent. -/
def orderKey (f : FieldSchema) : Binary64 := f.order.getD .zero

def property? (f : FieldSchema) (key : String) : Option Json :=
  f.properties.bind (fun p => Dict.get? p key)

/-- The nested fields that the properties hold under a key; `path` is where errors are reported. -/
def nestedFields (f : FieldSchema) (key : NestedKey) (path : String) :
    Except SchemaError (List FieldSchema) :=
  match f.property? key.name with
  | none => .error (.missingNested path key)
  | some v => ((Codec.list codec).decode v).mapError (SchemaError.decode (path ++ "." ++ key.name))

/-- Puts a field in front of the first one that may stand behind it. -/
def insertOrdered (f : FieldSchema) : List FieldSchema → List FieldSchema
  | [] => [f]
  | g :: rest =>
    if f.orderKey.totalKey ≤ g.orderKey.totalKey then f :: g :: rest else g :: insertOrdered f rest

/-- The fields in ascending order of their keys, equal keys in the order given. -/
def sortByOrder (fields : List FieldSchema) : List FieldSchema := fields.foldr insertOrdered []

end FieldSchema

/-- Where to go after a successful submission. -/
structure RedirectTarget where
  component : String := ""
  payloadPath : Option String := none

def RedirectTarget.record : Record RedirectTarget where
  name := "RedirectTarget"
  exact := false
  fields := [
    .mandatory "component" .text (fun a s => { s with component := a }) (·.component),
    .optional "payloadNamePath" .text (fun a s => { s with payloadPath := a }) (·.payloadPath)]
  initial := {}

structure Dispatch where
  redirect : Option RedirectTarget := none

def Dispatch.record : Record Dispatch where
  name := "Dispatch"
  exact := false
  fields := [
    .optional "onSuccessRedirectTo" RedirectTarget.record.codec
      (fun a s => { s with redirect := a }) (·.redirect)]
  initial := {}

structure FormSchema where
  fields : List FieldSchema := []
  action : String := ""
  dispatch : Option Dispatch := none

def FormSchema.record : Record FormSchema where
  name := "FormSchema"
  exact := false
  fields := [
    .mandatory "fields" (.list FieldSchema.codec) (fun a s => { s with fields := a }) (·.fields),
    .defaulted "action" .text (fun a s => { s with action := a }) (·.action),
    .optional "dispatch" Dispatch.record.codec (fun a s => { s with dispatch := a }) (·.dispatch)]
  initial := {}

end UiSchema
