import UiSchema.Remote
import UiSchema.Table.Column

/-!
# Search queries

A query is a conjunction of conditions on remote fields. An edit of a search field replaces the
condition on the remote field of its column, or removes it when the value is cleared; the replaced
condition goes to the end.
-/

set_option autoImplicit false

namespace UiSchema

structure SearchCondition where
  field : String := ""
  operator : String := ""
  value : Json := .null

namespace SearchCondition

def record : Record SearchCondition where
  name := "SearchCondition"
  exact := false
  fields := [
    .mandatory "field" .text (fun a s => { s with field := a }) (·.field),
    .mandatory "operator" .text (fun a s => { s with operator := a }) (·.operator),
    .mandatory "value" .raw (fun a s => { s with value := a }) (·.value)]
  initial := {}

def same (a b : SearchCondition) : Bool :=
  a.field == b.field && a.operator == b.operator && a.value.equal b.value

end SearchCondition

structure SearchQuery where
  conditions : List SearchCondition := []

namespace SearchQuery

def record : Record SearchQuery where
  name := "SearchQuery"
  exact := false
  fields := [
    .defaulted "and" (.list SearchCondition.record.codec) (fun a s => { s with conditions := a })
      (·.conditions)]
  initial := {}

def toJson (q : SearchQuery) : Json := record.encode q

def isEmpty (q : SearchQuery) : Bool := q.conditions.isEmpty

/-- The first condition on a field. -/
def condition? (q : SearchQuery) (field : String) : Option SearchCondition :=
  q.conditions.find? (fun c => c.field == field)

def sameConditions : List SearchCondition → List SearchCondition → Bool
  | [], [] => true
  | a :: as, b :: bs => a.same b && sameConditions as bs
  | _, _ => false

/-- The same conditions in the same order, values compared as values. -/
def same (p q : SearchQuery) : Bool := sameConditions p.conditions q.conditions

/-- Null and the empty text clear a condition. -/
def isCleared : Json → Bool
  | .null => true
  | .str s => s == ""
  | _ => false

def defaultOperator : String := "eq"

/-- The remote field and operator of the first active column with a data index. -/
def target? (columns : List ColumnSchema) (key : String) : Option (String × String) :=
  columns.findSome? (fun c =>
    if c.dataIndex = key then
      c.activeFilter?.map (fun f =>
        (f.searchField.getD c.dataIndex, f.operator.getD defaultOperator))
    else none)

/-- The conditions without the first one on a field. -/
def removeFirst (field : String) : List SearchCondition → List SearchCondition
  | [] => []
  | c :: rest => if c.field = field then rest else c :: removeFirst field rest

/-- One edit of a search field. -/
def applyEdit (columns : List ColumnSchema) (conditions : List SearchCondition) (key : String)
    (value : Json) : List SearchCondition :=
  match target? columns key with
  | none => conditions
  | some (field, operator) =>
    let kept := removeFirst field conditions
    if isCleared value then kept else kept ++ [⟨field, operator, value⟩]

/-- Edits of several search fields, in ascending order of their names. -/
def applyChange (q : SearchQuery) (changed : Properties) (columns : List ColumnSchema) :
    SearchQuery :=
  ⟨changed.foldl (fun conditions e => applyEdit columns conditions e.1 e.2) q.conditions⟩

end SearchQuery

/-- The live search of one table. -/
structure SearchSession where
  table : TableSchema
  query : SearchQuery := {}

namespace SearchSession

/-- Applies edits, and says whether the query changed. -/
def apply (s : SearchSession) (changed : Properties) : Bool × SearchSession :=
  let next := s.query.applyChange changed s.table.columns
  if next.same s.query then (false, s) else (true, { s with query := next })

def reset (s : SearchSession) : SearchSession := { s with query := {} }

def searchFields (s : SearchSession) : List FieldSchema := ColumnSchema.searchFields s.table.columns

/-- Posts the query to the table's endpoint. A failed search yields no rows. -/
def search (s : SearchSession) (t : Transport) : Remote (List Json) := do
  match ← Remote.postAs (.list .raw) t s.table.dataSourceUrl s.query.toJson.sorted with
  | .ok rows => return rows
  | .error errors =>
    Remote.warn ("search on '" ++ s.table.dataSourceUrl ++ "' failed: " ++ errors.message)
    return []

end SearchSession

end UiSchema
