import UiSchema.Lookup.Debouncer
import UiSchema.Lookup.Option

/-!
# Option sources

The option list of one lookup field. Loading replaces it, adding appends to it; a search answers
options without touching it, and only the latest of several searches within the window runs.
-/

set_option autoImplicit false

namespace UiSchema

structure LookupSource where
  properties : LookupProperties
  debouncer : Debouncer := {}
  options : List LookupOption := []

namespace LookupSource

/-- Fetches the unfiltered options. -/
def load (s : LookupSource) (t : Transport) : Remote LookupSource := do
  let options ← s.properties.fetchOptions t none
  return { s with options := options }

def setOptions (s : LookupSource) (options : List LookupOption) : LookupSource :=
  { s with options := options }

/-- A search that no other one follows within its window. -/
def search (s : LookupSource) (t : Transport) (query : String) :
    Remote (List LookupOption × LookupSource) := do
  let (_, d) := s.debouncer.start
  let options ← s.properties.fetchOptions t (some query)
  return (options, { s with debouncer := d })

/-- Runs the searches of a burst one after another, each with its number. -/
def runSearches (p : LookupProperties) (t : Transport) (queries : List String) :
    List Nat → Remote (List (Nat × List LookupOption))
  | [] => return []
  | i :: rest => do
    let options ← p.fetchOptions t (queries[i]?)
    let others ← runSearches p t queries rest
    return (i, options) :: others

/-- Searches with start times. A search that another one follows within the window has no answer. -/
def burst (s : LookupSource) (t : Transport) (queries : List (Nat × String)) :
    Remote (List (Option (List LookupOption)) × LookupSource) := do
  let start : Debouncer.State := { debouncer := s.debouncer }
  let (state, ran) :=
    start.run (Debouncer.schedule s.properties.debounce (queries.map Prod.fst))
  let answers ← runSearches s.properties t (queries.map Prod.snd) ran
  return ((List.range queries.length).map (fun i => answers.lookup i),
    { s with debouncer := state.debouncer })

/-- Creates an option from a label, if adding is allowed, there is an endpoint for it and the label
is not empty. -/
def addNew (s : LookupSource) (t : Transport) (label : String) :
    Remote (Option LookupOption × LookupSource) := do
  match s.properties.createAction with
  | none => return (none, s)
  | some url =>
    if !s.properties.allowAddNew || label == "" then return (none, s)
    else
      match ← Remote.post t url (.obj [("label", .str label)]) with
      | .ok (.obj item) =>
        let option := LookupOption.ofItem item s.properties.resultMap
        return (some option, { s with options := s.options ++ [option] })
      | .ok other =>
        Remote.warn ("Failed to create lookup item: unexpected response " ++ other.compact)
        return (none, s)
      | .error errors =>
        Remote.warn ("Failed to create lookup item: " ++ errors.message)
        return (none, s)

end LookupSource

end UiSchema
