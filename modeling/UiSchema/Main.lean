import UiSchema.Command.Run

/-!
# The command line

Reads the files that the arguments ask for, runs them and prints what comes of it. No server is
reached from here: every request goes unanswered.
-/

set_option autoImplicit false

namespace UiSchema

/-- What is found at a path. -/
def readPath (path : String) : IO (Except ReadFault String) := do
  if let some fault := pathFault? path then return .error fault
  try
    let bytes ← IO.FS.readBinFile path
    match String.fromUTF8? bytes with
    | some text => return .ok text
    | none => return .error .notText
  catch e =>
    match e with
    | .inappropriateType _ 20 _ => return .error .throughFile
    | .inappropriateType .. => return .error .directory
    | .invalidArgument .. => return .error .nameTooLong
    | _ => return .error .missing

/-- What is found at each of several paths. -/
def readPaths : List String → IO (List (String × Except ReadFault String))
  | [] => return []
  | path :: rest => do
    let found ← readPath path
    return (path, found) :: (← readPaths rest)

def printConsole (console : Console) : IO Unit := do
  console.journal.notices.forM (fun n => IO.eprintln n.text)
  console.printed.forM IO.println

def failureText (chain : List String) : String := "Error: " ++ Text.joinWith ": " chain

/-- How to call the program. -/
def usage : String :=
  "Tasks: render FILE, form FILE, filter FILE, lookup ACTION, schema KIND, help [TASK]"

end UiSchema

open UiSchema in
def main (line : List String) : IO UInt32 := do
  match Command.parseArguments line with
  | .error .informed =>
    IO.println usage
    return 0
  | .error .refused =>
    IO.eprintln "error: the arguments were not understood"
    return 2
  | .ok i =>
    let directory := toString (← IO.currentDir)
    let found ← readPaths (i.paths directory)
    let files : FileSystem := fun path => (found.lookup path).getD (.error .missing)
    let env : Environment := ⟨files, Http.Network.unreachable, directory⟩
    let (ending, console) := Command.runLine env line
    printConsole console
    match ending with
    | .failed e => IO.eprintln (failureText e.chain)
    | _ => pure ()
    return ending.exitCode.toUInt32
