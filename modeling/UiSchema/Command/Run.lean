import UiSchema.Command.Arguments

/-!
# Running an invocation

A task runs in its workspace with the configuration that is found there; only the schemas need none.
-/

set_option autoImplicit false

namespace UiSchema.Command

/-- How a run ended. -/
inductive Ending where
  | done
  | failed (cause : CommandError)
  /-- the arguments asked for nothing that could run -/
  | halted (why : Halt)

def Ending.exitCode : Ending → Nat
  | done => 0
  | failed _ => 1
  | halted .informed => 0
  | halted .refused => 2

namespace Invocation

def inWorkspace (i : Invocation) (env : Environment) (task : Workspace → Command Unit) :
    Command Unit := do
  let w : Workspace := { directory := i.workspace.getD env.directory }
  let w ← orFail .config (w.loadConfig env.files i.config)
  task w

def run (i : Invocation) (env : Environment) : Command Unit :=
  match i.task with
  | .render a => i.inWorkspace env (fun w => render env w a)
  | .form a => i.inWorkspace env (fun w => form env w a)
  | .filter a => i.inWorkspace env (fun w => filter env w a)
  | .lookup a => i.inWorkspace env (fun w => lookup env w a)
  | .schema kind => schema kind

/-- The paths of all files that a run may read. -/
def paths (i : Invocation) (directory : String) : List String :=
  let w : Workspace := { directory := i.workspace.getD directory }
  let documents := match i.task with
    | .render a => [a.file]
    | .form a => a.file :: (a.values.toList ++ a.layout.toList)
    | .filter a => [a.file]
    | _ => []
  w.configPathOf i.config :: documents.map w.resolve

end Invocation

/-- Runs a line of arguments. -/
def runLine (env : Environment) (line : List String) : Ending × Console :=
  match parseArguments line with
  | .error why => (.halted why, {})
  | .ok i =>
    match (i.run env).run {} with
    | (.ok (), console) => (.done, console)
    | (.error e, console) => (.failed e, console)

end UiSchema.Command
