import UiSchema.Form.Field

/-!
# Table columns

A table is searched at a remote endpoint. A column takes part in the search when its filter applies;
the search form then has one field for it.
-/

set_option autoImplicit false

namespace UiSchema

structure Filterable where
  apply : Bool := false
  kind : Option InputKind := none
  searchField : Option String := none
  operator : Option String := none

def Filterable.record : Record Filterable where
  name := "Filterable"
  exact := false
  fields := [
    .defaulted "apply" .bool (fun a s => { s with apply := a }) (·.apply),
    (.optional "inputType" InputKind.codec (fun a s => { s with kind := a }) (·.kind)
      : RecordField Filterable).withAlias "inputKind",
    .optional "searchFieldKey" .text (fun a s => { s with searchField := a }) (·.searchField),
    .optional "operator" .text (fun a s => { s with operator := a }) (·.operator)]
  initial := {}

structure ColumnSchema where
  dataIndex : String := ""
  explicitKey : Option String := none
  title : String := ""
  sortable : Bool := false
  width : Option Json := none
  filterable : Option Filterable := none

namespace ColumnSchema

def ofIndex (dataIndex : String) : ColumnSchema := { dataIndex := dataIndex }

def withTitle (c : ColumnSchema) (title : String) : ColumnSchema := { c with title := title }

def withFilter (c : ColumnSchema) (f : Filterable) : ColumnSchema := { c with filterable := some f }

def record : Record ColumnSchema where
  name := "ColumnSchema"
  exact := false
  fields := [
    .mandatory "dataIndex" .text (fun a s => { s with dataIndex := a }) (·.dataIndex),
    .optional "key" .text (fun a s => { s with explicitKey := a }) (·.explicitKey),
    .defaulted "title" .text (fun a s => { s with title := a }) (·.title),
    .defaulted "sortable" .bool (fun a s => { s with sortable := a }) (·.sortable),
    .optional "width" .raw (fun a s => { s with width := a }) (·.width),
    .optional "filterable" Filterable.record.codec (fun a s => { s with filterable := a })
      (·.filterable)]
  initial := {}

def codec : Codec ColumnSchema := record.codec

/-- The column's key; its data index when none is declared. -/
def key (c : ColumnSchema) : String := c.explicitKey.getD c.dataIndex

/-- The filter of a column that takes part in the search. -/
def activeFilter? (c : ColumnSchema) : Option Filterable :=
  match c.filterable with
  | some f => if f.apply then some f else none
  | none => none

/-- The field of the search form for a column. -/
def searchField? (c : ColumnSchema) : Option FieldSchema :=
  c.activeFilter?.map (fun f =>
    (FieldSchema.ofName c.dataIndex (f.kind.getD .input)).withLabel c.title)

/-- One search field for every active column, in column order. -/
def searchFields (columns : List ColumnSchema) : List FieldSchema :=
  columns.filterMap searchField?

/-- The search form above a table. It has no action. -/
def searchForm (columns : List ColumnSchema) : FormSchema := { fields := searchFields columns }

end ColumnSchema

structure TableSchema where
  dataSourceUrl : String := ""
  columns : List ColumnSchema := []
  rowKey : String := "id"

def TableSchema.record : Record TableSchema where
  name := "TableSchema"
  exact := false
  fields := [
    .mandatory "dataSourceUrl" .text (fun a s => { s with dataSourceUrl := a }) (·.dataSourceUrl),
    .mandatory "columns" (.list ColumnSchema.codec) (fun a s => { s with columns := a })
      (·.columns),
    .defaulted "rowKey" .text (fun a s => { s with rowKey := a }) (·.rowKey)]
  initial := {}

end UiSchema
