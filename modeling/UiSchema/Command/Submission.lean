import UiSchema.Command.Report
import UiSchema.Form.Submit

/-!
# Checking and submitting forms

A form is compiled and shown with its values and the rules they break. Submitting it needs values
that break none; a page registered before gives the path to go on to.
-/

set_option autoImplicit false

namespace UiSchema.Command

/-- A compiled form and the values to check: those given, else the initial ones. -/
def prepare (schema : FormSchema) (values : Option Properties) :
    Except SchemaError (CompiledForm × Submission) := do
  let form ← CompiledForm.compile schema values
  match values with
  | some nested => .ok (form, form.valuesFrom nested)
  | none => .ok (form, form.initialValues)

structure FormArguments where
  file : String
  values : Option String := none
  layout : Option String := none
  submit : Bool := false

def messageLines (errors : ValidationErrors) : List String :=
  errors.flatMap (fun e => e.2.map (fun m => "  " ++ e.1 ++ ": " ++ m))

/-- Posts the values of a form and prints the response, with the path it leads to. -/
def submitForm (env : Environment) (w : Workspace) (a : FormArguments) (form : CompiledForm)
    (values : Submission) : Command Unit := do
  let shared ← startRegistry w {}
  let shared ← match a.layout with
    | none => pure shared
    | some layout => do
      let root ← orFail .load (env.files.loadRoot (w.resolve layout))
      registerShared shared root
  let client ← orFail .client w.client
  match ← remotely (form.submit (client.transport env.network) values none shared) with
  | .ok outcome =>
    printJson outcome.response
    match outcome.redirect with
    | some path => print ("Redirect " ++ path)
    | none => pure ()
  | .error (.rejected errors) =>
    errors.forM (fun e => print ("  " ++ e.1 ++ ": " ++ e.2))
    throw (.rejected form.action)
  | .error e => throw (.submit e)

/-- Compiles a form, prints it with its values and checks them; submits it if asked to. -/
def form (env : Environment) (w : Workspace) (a : FormArguments) : Command Unit := do
  let schema ← orFail .load (env.files.load FormSchema.record.codec (w.resolve a.file))
  let values ← match a.values with
    | none => pure none
    | some path => do
      let properties ← orFail .load (env.files.load .properties (w.resolve path))
      pure (some properties)
  let (form, submission) ← orFail .fields (prepare schema values)
  printJson (.arr (CompiledField.toJsonList form.fields))
  printList "Values" (submission.map (fun e => e.1 ++ " = " ++ e.2.compact))
  match form.validate submission with
  | .ok () =>
    print "valid"
    if a.submit then submitForm env w a form submission
  | .error errors =>
    (messageLines errors).forM print
    if a.submit then throw .invalidValues

end UiSchema.Command
