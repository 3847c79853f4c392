import UiSchema.Decode.Record
import UiSchema.Node.Basic
import UiSchema.Remote
import UiSchema.Url.FormEncoding

/-!
# Options of lookups

The properties of a lookup field, the URL that its options are searched at, and the option that an
item of a response stands for.
-/

set_option autoImplicit false

namespace UiSchema

/-- The keys of an item that hold an option's label and value. -/
structure ResultMap where
  label : String := ""
  value : String := ""

def ResultMap.record : Record ResultMap where
  name := "ResultMap"
  exact := false
  fields := [
    .mandatory "label" .text (fun a s => { s with label := a }) (·.label),
    .mandatory "value" .text (fun a s => { s with value := a }) (·.value)]
  initial := {}

def defaultDebounce : Nat := 300

structure LookupProperties where
  fetchAction : String := ""
  searchField : String := "q"
  resultMap : List ResultMap := []
  multiple : Bool := false
  allowSearch : Bool := false
  allowAddNew : Bool := false
  createAction : Option String := none
  debounce : Nat := defaultDebounce
  placeholder : Option String := none
  disabled : Bool := false

def LookupProperties.record : Record LookupProperties where
  name := "LookupProperties"
  exact := false
  fields := [
    .mandatory "fetchAction" .text (fun a s => { s with fetchAction := a }) (·.fetchAction),
    .defaulted "searchField" .text (fun a s => { s with searchField := a }) (·.searchField),
    .defaulted "resultMap" (.list ResultMap.record.codec) (fun a s => { s with resultMap := a })
      (·.resultMap),
    .defaulted "multiple" .bool (fun a s => { s with multiple := a }) (·.multiple),
    .defaulted "allowSearch" .bool (fun a s => { s with allowSearch := a }) (·.allowSearch),
    .defaulted "allowAddNew" .bool (fun a s => { s with allowAddNew := a }) (·.allowAddNew),
    .optional "createAction" .text (fun a s => { s with createAction := a }) (·.createAction),
    .defaulted "debounce" (.natural 64) (fun a s => { s with debounce := a }) (·.debounce),
    .optional "placeholder" .text (fun a s => { s with placeholder := a }) (·.placeholder),
    .defaulted "disabled" .bool (fun a s => { s with disabled := a }) (·.disabled)]
  initial := {}

structure LookupOption where
  label : String := ""
  value : String := ""
deriving DecidableEq

namespace LookupOption

def record : Record LookupOption where
  name := "LookupOption"
  exact := false
  fields := [
    .mandatory "label" .text (fun a s => { s with label := a }) (·.label),
    .mandatory "value" .text (fun a s => { s with value := a }) (·.value)]
  initial := {}

def toJson (o : LookupOption) : Json := record.encode o

def nonNull? (item : Properties) (key : String) : Option Json :=
  (Dict.get? item key).filter (fun v => !v.isNull)

/-- The option under the keys of a map, if the item has both. -/
def mapped? (item : Properties) (m : ResultMap) : Option LookupOption := do
  let label ← Dict.get? item m.label
  let value ← Dict.get? item m.value
  some ⟨ErrorSet.textOf label, ErrorSet.textOf value⟩

/-- The option of an item: by the first map that fits, else by its own `label` and `value`. -/
def ofItem (item : Properties) (maps : List ResultMap) : LookupOption :=
  match maps.findSome? (mapped? item) with
  | some o => o
  | none =>
    let text (v : Option Json) : String := (v.map ErrorSet.textOf).getD ""
    ⟨text ((nonNull? item "label").or (nonNull? item "value")), text (nonNull? item "value")⟩

end LookupOption

namespace LookupProperties

/-- The URL of a search; without a query it is the fetch action itself. -/
def searchUrl (action searchField : String) (query : Option String) : String :=
  match query with
  | none => action
  | some q =>
    if q = "" then action
    else
      let separator := if action.toList.contains '?' then "&" else "?"
      action ++ separator ++ String.ofList (Url.formPair searchField q)

/-- Fetches the options for a query. A failure yields none. -/
def fetchOptions (p : LookupProperties) (t : Transport) (query : Option String) :
    Remote (List LookupOption) := do
  match ← Remote.fetchAs (.list .properties) t (searchUrl p.fetchAction p.searchField query) with
  | .ok items => return items.map (fun item => LookupOption.ofItem item p.resultMap)
  | .error e =>
    Remote.warn ("Failed to fetch options: " ++ e.message)
    return []

end LookupProperties

end UiSchema
