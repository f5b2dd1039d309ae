import WideColumn.Cql.Identifier
import WideColumn.GeneratedFile
import WideColumn.Schema.Table

/-!
# CREATE TABLE statements

A table is shown as the statement that would declare it. Types stand as the catalog spells them,
and a clustering column without a direction is ascending.

Main definitions: `Cql.createTable`, `Cql.tableFile`.
-/

namespace WideColumn.Cql

/-- The quoted name of a column. -/
def columnName (column : Column) : String := quoteIdentifier column.name

/-- The parts of the primary key: several partition-key columns are one part in parentheses. -/
def primaryKeyParts (table : Table) : List String :=
  let clustering := table.clusteringKeys.map columnName
  match table.partitionKeys.map columnName with
  | [] => clustering
  | [key] => key :: clustering
  | keys => ("(" ++ ", ".intercalate keys ++ ")") :: clustering

/-- A clustering column with its direction. -/
def orderedColumn (column : Column) : String :=
  columnName column ++ (if column.order = .desc then " DESC" else " ASC")

/-- The clause that gives the directions, if there are clustering columns. -/
def orderClause (table : Table) : String :=
  match table.clusteringKeys with
  | [] => ""
  | keys => " WITH CLUSTERING ORDER BY (" ++ ", ".intercalate (keys.map orderedColumn) ++ ")"

/-- The line of a column. -/
def columnLine (column : Column) : String :=
  "  " ++ columnName column ++ " " ++ column.rawType ++ ",\n"

/-- The statement that declares a table of a keyspace. -/
def createTable (keyspace : String) (table : Table) : String :=
  "CREATE TABLE " ++ quoteIdentifier keyspace ++ "." ++ quoteIdentifier table.name ++ " (\n"
    ++ String.join (table.columns.map columnLine)
    ++ "  PRIMARY KEY (" ++ ", ".intercalate (primaryKeyParts table) ++ ")\n"
    ++ ")" ++ orderClause table ++ ";\n"

/-- The file that shows a table. -/
def tableFile (keyspace : String) (table : Table) : GeneratedFile :=
  { path := table.name ++ ".cql"
    content := createTable keyspace table
    language := .cql }

end WideColumn.Cql
