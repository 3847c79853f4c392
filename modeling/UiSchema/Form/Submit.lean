import UiSchema.Form.Basic
import UiSchema.Registry.Shared
import UiSchema.Remote
import UiSchema.Route

/-!
# Submissions

A form is submitted by one post of its nested values, and only if it has an action and all rules
pass. After a success the form may lead on to a component: the path of its latest registration is a
route template that the response fills in.
-/

set_option autoImplicit false

namespace UiSchema

inductive SubmitError where
  | missingAction
  | invalid (errors : ValidationErrors)
  | rejected (errors : ErrorSet)

def SubmitError.message : SubmitError → String
  | .missingAction => "form has no action to submit to"
  | .invalid errors => errors.message
  | .rejected errors => "submission rejected: " ++ errors.message

structure SubmitOutcome where
  response : Json
  redirect : Option String

namespace CompiledForm

/-- The registry that redirects are looked up in: the given one, else the shared one. -/
def redirectRegistry (given : Option Registry) (shared : SharedRegistry) :
    Except RegistryError Registry :=
  match given with
  | some r => .ok r
  | none => shared.read id

/-- The route template of a component; the marker for a missing path if there is no registry. -/
def redirectTemplate (registry : Except RegistryError Registry) (component : String) :
    Remote String := do
  match registry with
  | .ok r => return r.pathOf component
  | .error e =>
    Remote.warn ("cannot resolve redirect for '" ++ component ++ "': " ++ e.message)
    return Registry.notFound

/-- Where a form leads to after a response. -/
def redirectFor (form : CompiledForm) (response : Json)
    (registry : Except RegistryError Registry) : Remote (Option String) := do
  match form.dispatch.bind (·.redirect) with
  | none => return none
  | some target =>
    let template ← redirectTemplate registry target.component
    if template = Registry.notFound then
      Remote.warn ("redirect component '" ++ target.component ++ "' has no registered path")
      return none
    else return some (Route.resolve template response target.payloadPath)

/-- Checks and posts values, and finds where to go from there. -/
def submit (form : CompiledForm) (t : Transport) (values : Submission) (given : Option Registry)
    (shared : SharedRegistry) : Remote (Except SubmitError SubmitOutcome) := do
  if form.action = "" then return .error .missingAction
  else
    match form.validate values with
    | .error errors => return .error (.invalid errors)
    | .ok () =>
      match ← Remote.post t form.action (form.toNested values) with
      | .error errors => return .error (.rejected errors)
      | .ok response =>
        let redirect ← form.redirectFor response (redirectRegistry given shared)
        return .ok ⟨response, redirect⟩

end CompiledForm

end UiSchema
