/-!
# Catalog rows

The catalog describes every column of every table by one row of text and numbers. Nothing in a row
has been checked yet.

Main definitions: `Row`.
-/

namespace WideColumn

/-- What the catalog says of one column. -/
structure Row where
  /-- The table that the column belongs to. -/
  tableName : String
  /-- The column itself. -/
  columnName : String
  /-- The direction of a clustering column, as the catalog writes it. -/
  clusteringOrder : Option String
  /-- The role of the column in the table's primary key, as the catalog writes it. -/
  kind : String
  /-- The place of a key column among the columns of its kind. -/
  position : Int32
  /-- The type of the column, as the catalog spells it. -/
  type : String
  deriving DecidableEq

end WideColumn
