import WideColumn.ColumnType.Spelling
import WideColumn.Schema.Row
import WideColumn.Text.Quoted

/-!
# Columns

A column is a catalog row whose role, type and direction have been read. Only the role can be wrong:
a type that is not known has a value of its own, and any direction but two means none.

Main definitions: `ColumnKind`, `ClusteringOrder`, `Column`, `SchemaError`, `Column.ofRow`.
-/

namespace WideColumn

open Text

/-! ## Roles -/

/-- The role of a column in the primary key of its table. -/
inductive ColumnKind where
  /-- Decides which partition a row is stored in. -/
  | partitionKey
  /-- Orders the rows inside a partition. -/
  | clustering
  /-- Not part of the key. -/
  | regular
  /-- Not part of the key, and shared by a whole partition. -/
  | static
  deriving DecidableEq, Repr

namespace ColumnKind

/-- The catalog's name of a role. -/
def name : ColumnKind → String
  | partitionKey => "partition_key"
  | clustering => "clustering"
  | regular => "regular"
  | static => "static"

/-- Every role. -/
def all : List ColumnKind := [partitionKey, clustering, regular, static]

/-- The role with the given name. -/
def ofName? (s : String) : Option ColumnKind := all.find? (·.name == s)

/-- The columns of the role have a place in the primary key. -/
def isKey : ColumnKind → Bool
  | partitionKey | clustering => true
  | regular | static => false

theorem ofName?_name (k : ColumnKind) : ofName? k.name = some k := by
  cases k <;> decide

end ColumnKind

/-! ## Directions -/

/-- The direction in which a clustering column orders rows. -/
inductive ClusteringOrder where
  | asc
  | desc
  | none
  deriving DecidableEq, Repr

namespace ClusteringOrder

/-- The direction that the catalog's text names, in any case and with any blanks around. -/
def parse : Option String → ClusteringOrder
  | .none => none
  | some s =>
    if eqIgnoringAsciiCase (trim s.toList) "asc".toList then asc
    else if eqIgnoringAsciiCase (trim s.toList) "desc".toList then desc
    else none

/-- The name of a direction. -/
def name : ClusteringOrder → String
  | asc => "asc"
  | desc => "desc"
  | none => "none"

end ClusteringOrder

/-! ## Columns -/

/-- A column of a table. -/
structure Column where
  tableName : String
  name : String
  kind : ColumnKind
  position : Int32
  /-- The type as the catalog spells it. -/
  rawType : String
  type : ColumnType
  order : ClusteringOrder

/-- Why catalog rows do not make up the tables that were asked for. -/
inductive SchemaError where
  /-- The keyspace has no tables at all. -/
  | emptyKeyspace (keyspace : String)
  /-- A table that was asked for has no columns. -/
  | emptyTable (table : String)
  /-- A column has a role that is not one of the four. -/
  | unknownKind (table column kind : String)
  deriving DecidableEq

/-- The error in words. -/
def SchemaError.message : SchemaError → String
  | emptyKeyspace keyspace => "no tables found in keyspace " ++ keyspace
  | emptyTable table => "table " ++ table ++ " not found or has no columns"
  | unknownKind table column kind =>
    "column " ++ table ++ "." ++ column ++ " has unsupported kind " ++ quoted kind

/-- The column that a row describes. -/
def Column.ofRow (row : Row) : Except SchemaError Column :=
  match ColumnKind.ofName? row.kind with
  | none => .error (.unknownKind row.tableName row.columnName row.kind)
  | some kind =>
    .ok
      { tableName := row.tableName
        name := row.columnName
        kind
        position := row.position
        rawType := row.type
        type := .parse row.type
        order := .parse row.clusteringOrder }

end WideColumn
