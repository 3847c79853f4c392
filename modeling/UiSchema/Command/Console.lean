import UiSchema.Form.Submit
import UiSchema.Workspace.Basic

/-!
# Running a command

A command reads files and calls a network; it prints texts, gives notices and may fail. What it had
printed before a failure stays printed.
-/

set_option autoImplicit false

namespace UiSchema

inductive CommandError where
  | config (cause : ConfigError)
  | load (cause : LoadError)
  | fields (cause : SchemaError)
  | registry (cause : RegistryError)
  | client (cause : Http.ClientError)
  | invalidValues
  | submit (cause : SubmitError)
  | rejected (action : String)
  | notCreated (label : String)

/-- The message of an error, followed by those of its causes. -/
def CommandError.chain : CommandError → List String
  | config cause => cause.chain
  | load cause => cause.chain
  | fields cause => cause.chain
  | registry cause => [cause.message]
  | client cause => cause.chain
  | invalidValues => ["refusing to submit invalid values"]
  | submit cause => [cause.message]
  | rejected action => ["submission to '" ++ action ++ "' was rejected"]
  | notCreated label => ["could not create option '" ++ label ++ "'"]

/-- What a command has printed, and the journal of its calls. -/
structure Console where
  printed : List String := []
  journal : Journal := {}

/-- A line without the carriage return in front of its line feed. -/
def withoutReturn (line : String) : String :=
  match line.toList.reverse with
  | '\r' :: rest => String.ofList rest.reverse
  | _ => line

/-- The lines printed so far. Each text ends a line, and a carriage return may stand at the end. -/
def Console.lines (c : Console) : List String :=
  c.printed.flatMap (fun text => (Text.splitOn '\n' text).map withoutReturn)

/-- What commands are run in. -/
structure Environment where
  files : FileSystem
  network : Http.Network
  directory : String

abbrev Command (α : Type) := ExceptT CommandError (StateM Console) α

namespace Command

def print (text : String) : Command Unit :=
  modify (fun c => { c with printed := c.printed ++ [text] })

def printJson (v : Json) : Command Unit := print v.pretty

/-- Prints a heading and a line for each item below it. -/
def printList (heading : String) (items : List String) : Command Unit := do
  print heading
  items.forM (fun s => print ("  " ++ s))

def notify (notices : List Notice) : Command Unit :=
  modify (fun c =>
    { c with journal := { c.journal with notices := c.journal.notices ++ notices } })

def remotely {α : Type} (r : Remote α) : Command α := fun c =>
  let (a, journal) := r.run c.journal
  (.ok a, { c with journal := journal })

/-- The value of a result, or its error as the failure of the command. -/
def orFail {α ε : Type} (failure : ε → CommandError) (r : Except ε α) : Command α :=
  match r with
  | .ok a => pure a
  | .error e => throw (failure e)

def naturalText (n : Nat) : String := String.ofList (Nat.toDigits 10 n)

end Command

end UiSchema
