import WideColumn.Json.Value
import WideColumn.Schema.Row

/-!
# Rows as JSON

A row is written as an object whose keys are the columns of the catalog. Keys of other names carry
nothing and may even be repeated; a key of the catalog may not. Every value is needed but the
clustering order, which may be missing or `null`, and a position has to be a whole number of 32
bits.

Main definitions: `Row.ofMembers`, `Row.ofElements`, `Row.parse?`.
-/

namespace WideColumn

open Json (Value)

namespace Row

/-! ## Members -/

/-- The keys that carry a row. -/
def keys : List String :=
  ["table_name", "column_name", "clustering_order", "kind", "position", "type"]

/-- The values of a key. -/
def valuesOf (key : String) (members : List (Option String × Value)) : List Value :=
  members.filterMap fun (k, v) => if k = some key then some v else none

/-- None of the keys is repeated. -/
def haveDistinct (keys : List String) (members : List (Option String × Value)) : Bool :=
  keys.all fun key => (valuesOf key members).length ≤ 1

/-! ## Values -/

/-- The text of a value that has to be a string. -/
def text? : Value → Option String
  | .string s => s
  | _ => none

/-- The text of a value that may be missing: `null` is as good as none. -/
def optionalText? : Value → Option (Option String)
  | .null => some none
  | .string s => s.map some
  | _ => none

/-- Positions have 32 bits: they are below this, and not below its negation. -/
def positionLimit : Int := 2147483648

/-- The value as a whole number of 32 bits. -/
def position? : Value → Option Int32
  | .number n =>
    match n.integer? with
    | some i => if -positionLimit ≤ i ∧ i < positionLimit then some (Int32.ofInt i) else none
    | none => none
  | _ => none

/-! ## Rows -/

/-- The row that six values spell, in the order of the keys. -/
def ofValues (tableName columnName clusteringOrder kind position type : Value) : Option Row :=
  match text? tableName, text? columnName, optionalText? clusteringOrder, text? kind,
    position? position, text? type with
  | some tableName, some columnName, some clusteringOrder, some kind, some position, some type =>
    some { tableName, columnName, clusteringOrder, kind, position, type }
  | _, _, _, _, _, _ => none

/-- The row that the members of an object spell. -/
def ofMembers (members : List (Option String × Value)) : Option Row :=
  let value (key : String) := (valuesOf key members).head?
  if !haveDistinct keys members then none
  else match value "table_name", value "column_name", value "kind", value "position",
    value "type" with
  | some tableName, some columnName, some kind, some position, some type =>
    ofValues tableName columnName ((value "clustering_order").getD .null) kind position type
  | _, _, _, _, _ => none

/-- The row that the elements of an array spell: all six, in the order of the keys. -/
def ofElements : List Value → Option Row
  | [tableName, columnName, clusteringOrder, kind, position, type] =>
    ofValues tableName columnName clusteringOrder kind position type
  | _ => none

/-- The row that a document spells, as an object or as an array. What other keys hold is skipped
unread, but every key has to have a text. -/
def parse? (document : String) : Option Row :=
  match Json.parse? document.toList with
  | some (.object members) => if members.all (·.1.isSome) then ofMembers members else none
  | some (.array elements) => ofElements elements
  | _ => none

end Row

end WideColumn
