import UiSchema.Form.Compile

/-!
# Compiled forms

A compiled form with the values entered into it. A submission holds values by full name; `toNested`
builds the nested object that is posted from it, leaf by leaf, and `valuesFrom` reads such an object
back along the same paths.
-/

set_option autoImplicit false

namespace UiSchema

/-- Values by full field name. -/
abbrev Submission := Dict Json

/-- The messages of failed rules by full field name. -/
abbrev ValidationErrors := Dict (List String)

def ValidationErrors.message (errors : ValidationErrors) : String :=
  String.ofList (Nat.toDigits 10 errors.length) ++ " field(s) failed validation"

def ValidationErrors.toJson (errors : ValidationErrors) : Json :=
  .obj (Dict.mapValues (fun messages => Json.arr (messages.map Json.str)) errors)

/-- Adds a repetition; a group that cannot take one stays as it is. -/
def RepeatGroup.grow : CompiledField.RepeatAction (Except SchemaError Nat) := fun g =>
  match g.add with
  | .ok (index, g) => (.ok index, g)
  | .error e => (.error e, g)

structure CompiledForm where
  fields : List CompiledField
  action : String
  dispatch : Option Dispatch

namespace CompiledForm

/-- Compiles a form; initial values come from `values` first. -/
def compile (schema : FormSchema) (values : Option Properties) : Except SchemaError CompiledForm := do
  let fields ← FieldSchema.compile schema.fields [] (.values values)
  .ok ⟨fields, schema.action, schema.dispatch⟩

def leaves (form : CompiledForm) : List LeafField := CompiledField.leavesOf form.fields

/-- The first leaf with a full name. -/
def leaf? (form : CompiledForm) (name : String) : Option LeafField :=
  form.leaves.find? (fun f => f.fullName == name)

/-- The first repeat group with a full name. -/
def repeat? (form : CompiledForm) (name : String) : Option (RepeatGroup CompiledField) :=
  CompiledField.repeat? form.fields name

/-- Adds a repetition to a group; the answer is missing if there is no such group. -/
def addRow (form : CompiledForm) (name : String) :
    Option (Except SchemaError Nat) × CompiledForm :=
  match CompiledField.actOnRepeatIn name RepeatGroup.grow form.fields with
  | some (answer, fields) => (some answer, { form with fields := fields })
  | none => (none, form)

/-- Removes a repetition from a group; the answer is missing if there is no such group. -/
def removeRow (form : CompiledForm) (name : String) (index : Nat) : Option Bool × CompiledForm :=
  match CompiledField.actOnRepeatIn name (fun g => g.remove index) form.fields with
  | some (answer, fields) => (some answer, { form with fields := fields })
  | none => (none, form)

/-- One value for each leaf that has one, by full name. -/
def collect (form : CompiledForm) (value? : LeafField → Option Json) : Submission :=
  Dict.ofList (form.leaves.filterMap (fun f => (value? f).map (fun v => (f.fullName, v))))

def initialValues (form : CompiledForm) : Submission := form.collect (·.initialValue)

/-- The leaf values of a nested value object. -/
def valuesFrom (form : CompiledForm) (nested : Properties) : Submission :=
  form.collect (fun f => (Json.obj nested).readAt f.path)

/-- The nested value object of a submission; names of no leaf are dropped. -/
def toNested (form : CompiledForm) (values : Submission) : Json :=
  form.leaves.foldl (fun root f =>
    match Dict.get? values f.fullName with
    | some v => root.writeAt f.path v
    | none => root) (.obj [])

/-- The messages of the rules of a leaf that refuse a value. -/
def failures (f : LeafField) (value : Option Json) : List String :=
  (f.rules.filter (fun r => !r.passes value)).map ValidationRule.message

/-- The messages of all failing rules. -/
def validationErrors (form : CompiledForm) (values : Submission) : ValidationErrors :=
  Dict.ofList (form.leaves.filterMap (fun f =>
    let messages := failures f (Dict.get? values f.fullName)
    if messages.isEmpty then none else some (f.fullName, messages)))

def validate (form : CompiledForm) (values : Submission) : Except ValidationErrors Unit :=
  let errors := form.validationErrors values
  if errors.isEmpty then .ok () else .error errors

def toJson (form : CompiledForm) : Json :=
  .obj ([("fields", .arr (CompiledField.toJsonList form.fields)), ("action", .str form.action)] ++
    (form.dispatch.map (fun d => ("dispatch", Dispatch.record.encode d))).toList)

end CompiledForm

end UiSchema
