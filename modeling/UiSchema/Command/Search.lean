import UiSchema.Command.Console
import UiSchema.Lookup.Source
import UiSchema.Table.Query

/-!
# Searching tables and lookups

A table's search query is built from edits of its search fields, and posted if asked to; a value is
read as a document where it is one, else as text. A lookup's options are fetched or searched, and a
new one may be created.
-/

set_option autoImplicit false

namespace UiSchema.Command

inductive AssignmentError where
  | noEquals (text : String)
  | emptyKey (text : String)

def ticked (s : String) : String := "\x60" ++ s ++ "\x60"

def AssignmentError.message : AssignmentError → String
  | noEquals text => "invalid KEY=VALUE: no \x60=\x60 found in " ++ ticked text
  | emptyKey text => "invalid KEY=VALUE: empty key in " ++ ticked text

/-- The texts in front of and behind the first equals sign. -/
def cutEquals (s : String) : Option (String × String) :=
  (Text.cutOnce '=' s.toList).map (fun p => (String.ofList p.1, String.ofList p.2))

/-- The value that a text stands for. -/
def valueOf (text : String) : Json := (Json.parse? text).getD (.str text)

/-- An edit of a search field, written as a key and a value. -/
def parseAssignment (s : String) : Except AssignmentError (String × Json) :=
  match cutEquals s with
  | none => .error (.noEquals s)
  | some (key, text) => if key = "" then .error (.emptyKey s) else .ok (key, valueOf text)

/-- The keys of an option, written as that of its label and that of its value. -/
def parseResultMap? (s : String) : Option ResultMap :=
  match cutEquals s with
  | some (label, value) => if label = "" ∨ value = "" then none else some ⟨label, value⟩
  | none => none

def resultMapMessage (s : String) : String := "invalid LABEL=VALUE: " ++ ticked s

/-- Applies edits one by one, and gives the keys that changed nothing. -/
def applyAll (s : SearchSession) : List (String × Json) → List String × SearchSession
  | [] => ([], s)
  | (key, value) :: rest =>
    let (changed, s) := s.apply [(key, value)]
    let (ignored, s) := applyAll s rest
    (if changed then ignored else key :: ignored, s)

structure FilterArguments where
  file : String
  edits : List (String × Json) := []
  fetch : Bool := false

def ignoredNotice (key : String) : Notice :=
  .warning ("'" ++ key ++ "' left the query unchanged, not a filterable column?")

/-- Builds the search query of a table and prints it; posts it if asked to, and prints the rows. -/
def filter (env : Environment) (w : Workspace) (a : FilterArguments) : Command Unit := do
  let table ← orFail .load (env.files.load TableSchema.record.codec (w.resolve a.file))
  let start : SearchSession := { table := table }
  printList "Search fields" (start.searchFields.map (fun f => f.name ++ " (" ++ f.kind.name ++ ")"))
  let (ignored, session) := applyAll start a.edits
  notify (ignored.map ignoredNotice)
  printJson session.query.toJson
  if a.fetch then
    let client ← orFail .client w.client
    let rows ← remotely (session.search (client.transport env.network))
    print (naturalText rows.length ++ " rows")
    printJson (.arr rows)

structure LookupArguments where
  fetchAction : String
  searchField : String := "q"
  resultMap : List ResultMap := []
  query : Option String := none
  add : Option String := none
  createAction : Option String := none

/-- The properties of the lookup that the arguments describe. -/
def LookupArguments.properties (a : LookupArguments) (c : LookupConfig) : LookupProperties where
  fetchAction := a.fetchAction
  searchField := a.searchField
  resultMap := a.resultMap
  allowSearch := a.query.isSome
  allowAddNew := a.createAction.isSome
  createAction := a.createAction
  debounce := c.debounce

/-- Fetches or searches the options of a lookup and prints them; creates an option if asked to. -/
def lookup (env : Environment) (w : Workspace) (a : LookupArguments) : Command Unit := do
  let client ← orFail .client w.client
  let t := client.transport env.network
  let source : LookupSource := { properties := a.properties w.config.lookup }
  let source ← match a.query with
    | some query => do
      let (options, source) ← remotely (source.search t query)
      pure (source.setOptions options)
    | none => remotely (source.load t)
  printList (naturalText source.options.length ++ " options")
    (source.options.map (fun o => o.value ++ " = " ++ o.label))
  match a.add with
  | none => pure ()
  | some label =>
    match ← remotely (source.addNew t label) with
    | (some option, _) => print ("Created " ++ option.toJson.pretty)
    | (none, _) => throw (.notCreated label)

end UiSchema.Command
