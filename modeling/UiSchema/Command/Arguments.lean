import UiSchema.Command.Options
import UiSchema.Command.Report
import UiSchema.Command.Search
import UiSchema.Command.Submission

/-!
# Arguments

A line of arguments names a task with its options and its operand; two options may stand in front of
the task or behind its name, and those behind it win. Help and the version may be asked for on either
level. What stands in front of the task is checked to its end only when the rest is understood.
-/

set_option autoImplicit false

namespace UiSchema.Command

inductive Task where
  | render (a : RenderArguments)
  | form (a : FormArguments)
  | filter (a : FilterArguments)
  | lookup (a : LookupArguments)
  | schema (kind : JsonSchema.DocumentKind)

structure Invocation where
  config : Option String
  workspace : Option String
  task : Task

/-- A path has at least one character. -/
def isPath (text : String) : Bool := text != ""

def pathOption (name : String) (letter : Option Char) : OptionSpec :=
  { name := name, letter := letter, accepts := isPath }

def flagOption (name : String) : OptionSpec := { name := name, kind := .flag }

def informationOption (name : String) (letter : Char) : OptionSpec :=
  { name := name, letter := some letter, kind := .information }

/-- The options of every level. -/
def sharedOptions : List OptionSpec :=
  [pathOption "config" (some 'c'), pathOption "workspace" (some 'w'),
   informationOption "help" 'h', informationOption "version" 'V']

def frontLevel : Level := ⟨sharedOptions, none⟩

def viewportOption : OptionSpec :=
  { name := "viewport", accepts := fun v => (Viewport.parse v).toOption.isSome }

def setOption : OptionSpec :=
  { name := "set", repeatable := true, accepts := fun v => (parseAssignment v).toOption.isSome }

def mapOption : OptionSpec :=
  { name := "map", repeatable := true, accepts := fun v => (parseResultMap? v).isSome }

/-- The options of a task beside the shared ones, and the operand that it accepts. -/
def taskLevel? : String → Option Level
  | "render" => some ⟨[viewportOption], some isPath⟩
  | "form" => some
      ⟨[pathOption "values" none, pathOption "layout" none, flagOption "submit"], some isPath⟩
  | "filter" => some ⟨[setOption, flagOption "fetch"], some isPath⟩
  | "lookup" => some
      ⟨[{ name := "search-field" }, mapOption, { name := "query" }, { name := "add" },
        { name := "create-action" }], some (fun _ => true)⟩
  | "schema" => some ⟨[], some (fun kind => (JsonSchema.DocumentKind.ofName? kind).isSome)⟩
  | _ => none

def helpName : String := "help"

def isTaskName (word : String) : Bool := (taskLevel? word).isSome

/-- Whether help can be given about what the words name: everything, one task, or help itself. -/
def isHelpTopic : List String → Bool
  | [] => true
  | [word] => isTaskName word || word == helpName
  | _ => false

/-- A value that may be absent, but is read if it is there. -/
def readOptional {α : Type} (read : String → Option α) : Option String → Option (Option α)
  | none => some none
  | some s => (read s).map some

/-- The task of a name with its operand and options. -/
def taskOf (name operand : String) (s : Scan) : Option Task :=
  match name with
  | "render" => do
    let viewport ← readOptional (fun v => (Viewport.parse v).toOption) (s.value? "viewport")
    some (.render ⟨operand, viewport⟩)
  | "form" => some (.form ⟨operand, s.value? "values", s.value? "layout", s.has "submit"⟩)
  | "filter" => do
    let edits ← (s.values "set").mapM (fun v => (parseAssignment v).toOption)
    some (.filter ⟨operand, edits, s.has "fetch"⟩)
  | "lookup" => do
    let maps ← (s.values "map").mapM parseResultMap?
    if s.has "add" && !s.has "create-action" then none
    else some (.lookup ⟨operand, (s.value? "search-field").getD "q", maps, s.value? "query",
      s.value? "add", s.value? "create-action"⟩)
  | "schema" => (JsonSchema.DocumentKind.ofName? operand).map Task.schema
  | _ => none

def orRefuse {α : Type} : Option α → Reading α
  | some a => .ok a
  | none => .error .refused

/-- The task of a name with the words behind it, and what was read of them. -/
def readTask (name : String) (line : List String) : Reading (Task × Scan) := do
  let level ← orRefuse (taskLevel? name)
  let level := { level with options := sharedOptions ++ level.options }
  let scan ← Scan.words level {} line
  let operand ← orRefuse scan.operand
  let task ← orRefuse (taskOf name operand scan)
  .ok (task, scan)

/-- What a line of arguments asks for. -/
def parseArguments (line : List String) : Reading Invocation := do
  let isName (word : String) : Bool := isTaskName word || word == helpName
  let (front, name, rest) ← Scan.untilName isName frontLevel {} line
  if name = helpName then
    .error (if isHelpTopic rest then .informed else .refused)
  else
    let (task, scan) ← readTask name rest
    let front ← front.settle frontLevel
    .ok ⟨(scan.value? "config").or (front.value? "config"),
      (scan.value? "workspace").or (front.value? "workspace"), task⟩

end UiSchema.Command
