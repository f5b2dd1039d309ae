import WideColumn.Name.Case
import WideColumn.Schema.Table
import WideColumn.TargetType

/-!
# Key models

A query must name every partition-key column, and may restrict clustering columns only from the
first one on without leaving one out. The key model of a table lists the partition-key columns and
every legal choice of clustering columns, which are the prefixes of their order.

Main definitions: `KeyField`, `KeyModel`, `KeyModel.ofTable`.
-/

namespace WideColumn

/-- A key column as it appears in a model's types. -/
structure KeyField where
  /-- The name of the field. -/
  name : String
  /-- The name of the column. -/
  columnName : String
  target : TargetType

/-- The field of a key column. -/
def KeyField.ofColumn (column : Column) : KeyField :=
  { name := Name.camel column.name
    columnName := column.name
    target := column.type.target }

/-- Which key columns a query of a table can name. -/
structure KeyModel where
  /-- The partition-key columns, all of which a query must name. -/
  partitionKeys : List KeyField
  /-- The legal choices of clustering columns, shortest first. -/
  clusteringPrefixes : List (List KeyField)

namespace KeyModel

/-- The prefixes of a list that are not empty, shortest first. -/
def prefixesOf {α : Type} (xs : List α) : List (List α) :=
  (List.range xs.length).map fun i => xs.take (i + 1)

/-- The key model of a table. -/
def ofTable (table : Table) : KeyModel :=
  { partitionKeys := table.partitionKeys.map KeyField.ofColumn
    clusteringPrefixes := prefixesOf (table.clusteringKeys.map KeyField.ofColumn) }

/-- The table has clustering columns. -/
def isClustered (keys : KeyModel) : Bool := !keys.clusteringPrefixes.isEmpty

/-- All clustering columns: the longest choice. -/
def clusteringFields (keys : KeyModel) : List KeyField :=
  keys.clusteringPrefixes.getLast?.getD []

end KeyModel

end WideColumn
