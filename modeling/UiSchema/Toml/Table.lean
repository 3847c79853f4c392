import UiSchema.Toml.Moment

/-!
# Tables of a sectioned document

Lines of such a document assign values to dotted keys of the current table, and headers choose that
table. What a later line may still do to a table depends on how the table came about, which its kind
records: a value is closed, a table that has had its own header may not be opened again, and one
made by dotted keys takes dotted keys only.
-/

set_option autoImplicit false

namespace UiSchema.Toml

/-- How a table came about. -/
inductive TableKind where
  /-- by its own header -/
  | header
  /-- on the way to a header below it -/
  | implied
  /-- on the way to a dotted key -/
  | dotted
deriving DecidableEq

inductive Item where
  | value (v : Json)
  | list (items : List Item)
  /-- a table written as a value, which nothing can be added to -/
  | inline (entries : List (String × Item))
  | table (kind : TableKind) (entries : List (String × Item))
  | rows (before : List (List (String × Item))) (last : List (String × Item))

/-- The entries of a table, in the order they were made. -/
abbrev Entries := List (String × Item)

namespace Entries

def contains (t : Entries) (key : String) : Bool := t.any (fun e => e.1 == key)

/-- The entries with an item under a key: in its place if the key is there, else behind the others. -/
def put : Entries → String → Item → Entries
  | [], key, item => [(key, item)]
  | (k, old) :: rest, key, item =>
    if k = key then (key, item) :: rest else (k, old) :: put rest key item

/-- The entries with an item under a key, behind the others in any case. -/
def putLast (t : Entries) (key : String) (item : Item) : Entries :=
  t.filter (fun e => e.1 != key) ++ [(key, item)]

end Entries

mutual

/-- The value of an item, unless a table in it that stands for a moment does not hold one. -/
def Item.toJson? : Item → Option Json
  | .value v => some v
  | .list items => (listToJson? items).map Json.arr
  | .inline entries => tableToJson? entries
  | .table _ entries => tableToJson? entries
  | .rows before last => do
    let first ← rowsToJson? before
    let row ← tableToJson? last
    some (.arr (first ++ [row]))

def listToJson? : List Item → Option (List Json)
  | [] => some []
  | item :: rest => do
    let v ← item.toJson?
    let vs ← listToJson? rest
    some (v :: vs)

/-- The value of a table. The key of moments counts only at its front, and then the entries behind
it do not count. -/
def tableToJson? : List (String × Item) → Option Json
  | [] => some (.obj [])
  | (k, item) :: rest =>
    if k = momentKey then
      match item with
      | .value (.str text) => (momentText? text).map momentValue
      | _ => none
    else do
      let v ← item.toJson?
      let others ← entriesToJson? rest
      some (.obj (Dict.ofList ((k, v) :: others)))

def entriesToJson? : List (String × Item) → Option (List (String × Json))
  | [] => some []
  | (k, item) :: rest => do
    let v ← item.toJson?
    let others ← entriesToJson? rest
    some ((k, v) :: others)

def rowsToJson? : List (List (String × Item)) → Option (List Json)
  | [] => some []
  | row :: rest => do
    let v ← tableToJson? row
    let vs ← rowsToJson? rest
    some (v :: vs)

end

/-- Assigns an item to a key behind a dotted path. `dottedHere` says that the table at hand may take
the last key. -/
def assign (dottedHere : Bool) : List String → String → Item → Entries → Option Entries
  | [], last, item, t =>
    if dottedHere && !t.contains last then some (t.put last item) else none
  | k :: path, last, item, t =>
    match t.lookup k with
    | none => do
      let sub ← assign true path last item []
      some (t.put k (.table .dotted sub))
    | some (.table .dotted sub) => do
      let sub ← assign true path last item sub
      some (t.put k (.table .dotted sub))
    | some (.table .implied sub) => do
      let sub ← assign false path last item sub
      some (t.put k (.table .implied sub))
    | some (.rows before row) => do
      let row ← assign false path last item row
      some (t.put k (.rows before row))
    | some _ => none

/-- Applies a change to the table that a header path leads to, through the last row of each array. -/
def atPath (change : Entries → Option Entries) : List String → Entries → Option Entries
  | [], t => change t
  | k :: path, t =>
    match t.lookup k with
    | none => do
      let sub ← atPath change path []
      some (t.put k (.table .implied sub))
    | some (.table kind sub) => do
      let sub ← atPath change path sub
      some (t.put k (.table kind sub))
    | some (.rows before row) => do
      let row ← atPath change path row
      some (t.put k (.rows before row))
    | some _ => none

/-- Opens a table by its header, which gives it its place among the entries beside it. -/
def openTable (path : List String) (last : String) (t : Entries) : Option Entries :=
  atPath (fun t =>
    match t.lookup last with
    | none => some (t.putLast last (.table .header []))
    | some (.table .implied sub) => some (t.putLast last (.table .header sub))
    | some _ => none) path t

/-- Opens a new row of an array of tables. -/
def openRow (path : List String) (last : String) (t : Entries) : Option Entries :=
  atPath (fun t =>
    match t.lookup last with
    | none => some (t.put last (.rows [] []))
    | some (.rows before row) => some (t.put last (.rows (before ++ [row]) []))
    | some _ => none) path t

/-- Assigns a value in the table that was opened last. -/
def assignIn (current : List String) (path : List String) (last : String) (item : Item)
    (t : Entries) : Option Entries :=
  atPath (assign true path last item) current t

end UiSchema.Toml
