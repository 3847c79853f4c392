import UiSchema.Decode.Record
import UiSchema.Remote

/-!
# Options of checkboxes

A checkbox field is a group when it has options of its own or an endpoint to fetch them from;
otherwise it is a single toggle.
-/

set_option autoImplicit false

namespace UiSchema

structure CheckboxOption where
  label : String := ""
  value : Json := .null
  checked : Option Bool := none
  disabled : Option Bool := none

def CheckboxOption.record : Record CheckboxOption where
  name := "CheckboxOption"
  exact := false
  fields := [
    .mandatory "label" .text (fun a s => { s with label := a }) (·.label),
    .mandatory "value" .raw (fun a s => { s with value := a }) (·.value),
    .optional "checked" .bool (fun a s => { s with checked := a }) (·.checked),
    .optional "disabled" .bool (fun a s => { s with disabled := a }) (·.disabled)]
  initial := {}

structure CheckboxProperties where
  fetchAction : Option String := none
  options : List CheckboxOption := []
  checked : Bool := false
  disabled : Bool := false

namespace CheckboxProperties

def record : Record CheckboxProperties where
  name := "CheckboxProperties"
  exact := false
  fields := [
    .optional "fetchAction" .text (fun a s => { s with fetchAction := a }) (·.fetchAction),
    .defaulted "options" (.list CheckboxOption.record.codec) (fun a s => { s with options := a })
      (·.options),
    .defaulted "checked" .bool (fun a s => { s with checked := a }) (·.checked),
    .defaulted "disabled" .bool (fun a s => { s with disabled := a }) (·.disabled)]
  initial := {}

def isGroup (p : CheckboxProperties) : Bool := p.fetchAction.isSome || !p.options.isEmpty

/-- The options: fetched if there is an endpoint, else those of the field. -/
def fetchOptions (p : CheckboxProperties) (t : Transport) : Remote (List CheckboxOption) := do
  match p.fetchAction with
  | none => return p.options
  | some url =>
    match ← Remote.fetchAs (.list CheckboxOption.record.codec) t url with
    | .ok options => return options
    | .error e =>
      Remote.warn ("Failed to fetch checkbox options: " ++ e.message)
      return []

end CheckboxProperties

end UiSchema
