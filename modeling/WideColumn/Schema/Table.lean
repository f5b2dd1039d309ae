import WideColumn.Schema.Column

/-!
# Tables

The rows of the catalog are grouped into tables in the order in which the tables are first seen, and
the columns of a table stay in the order of their rows. Nothing is sorted on the way: the order of
the key columns is asked for where it matters.

Main definitions: `Table`, `Table.keys`, `Tables.ofRows`.
-/

namespace WideColumn

/-- A table with its columns in catalog order. -/
structure Table where
  name : String
  columns : List Column

namespace Table

/-- The columns of one kind by position. Columns that share a position keep their catalog order. -/
def keys (table : Table) (kind : ColumnKind) : List Column :=
  (table.columns.filter (·.kind = kind)).mergeSort fun a b => a.position.toInt ≤ b.position.toInt

/-- The partition-key columns by position. -/
def partitionKeys (table : Table) : List Column := table.keys .partitionKey

/-- The clustering columns by position. -/
def clusteringKeys (table : Table) : List Column := table.keys .clustering

end Table

namespace Tables

/-- Adds a column to the table it belongs to, which comes last if it is new. -/
def insert (column : Column) : List Table → List Table
  | [] => [⟨column.tableName, [column]⟩]
  | table :: rest =>
    if table.name = column.tableName then
      { table with columns := table.columns ++ [column] } :: rest
    else table :: insert column rest

/-- The tables that the columns belong to. -/
def ofColumns (columns : List Column) : List Table :=
  columns.foldl (fun tables column => insert column tables) []

/-- The table of the given name is among the tables. -/
def has (tables : List Table) (name : String) : Bool := tables.any (·.name == name)

/-- The tables that catalog rows describe. Every row must have a known role, and every table that
was asked for must have a row; the first row, and then the first name, that fails is reported. -/
def ofRows (rows : List Row) (requested : List String) : Except SchemaError (List Table) :=
  match rows.mapM Column.ofRow with
  | .error e => .error e
  | .ok columns =>
    match requested.find? (fun name => !has (ofColumns columns) name) with
    | some missing => .error (.emptyTable missing)
    | none => .ok (ofColumns columns)

end Tables

end WideColumn
