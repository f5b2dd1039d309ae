/-!
# Native scalar types

The scalar types of the storage engine, with the names the catalog gives them.

Main definitions: `NativeType`, `NativeType.all`, `NativeType.name`, `NativeType.ofName?`.
-/

namespace WideColumn

/-- A scalar type of the storage engine. -/
inductive NativeType where
  | ascii
  | bigint
  | blob
  | boolean
  | counter
  | date
  | decimal
  | double
  | duration
  | float
  | inet
  | int
  | smallint
  | text
  | time
  | timestamp
  | timeuuid
  | tinyint
  | uuid
  | varchar
  | varint
  deriving DecidableEq, Repr

namespace NativeType

/-- Every native type, in the alphabetical order of the names. -/
def all : List NativeType :=
  [ascii, bigint, blob, boolean, counter, date, decimal, double, duration, float, inet, int,
   smallint, text, time, timestamp, timeuuid, tinyint, uuid, varchar, varint]

/-- The catalog's name of a type. -/
def name : NativeType → String
  | ascii => "ascii"
  | bigint => "bigint"
  | blob => "blob"
  | boolean => "boolean"
  | counter => "counter"
  | date => "date"
  | decimal => "decimal"
  | double => "double"
  | duration => "duration"
  | float => "float"
  | inet => "inet"
  | int => "int"
  | smallint => "smallint"
  | text => "text"
  | time => "time"
  | timestamp => "timestamp"
  | timeuuid => "timeuuid"
  | tinyint => "tinyint"
  | uuid => "uuid"
  | varchar => "varchar"
  | varint => "varint"

/-- The type with the given name, which has to be in small letters. -/
def ofName? (s : String) : Option NativeType := all.find? (·.name == s)

theorem ofName?_name (t : NativeType) : ofName? t.name = some t := by
  cases t <;> decide

theorem name_of_ofName?_eq_some {s : String} {t : NativeType} (h : ofName? s = some t) :
    t.name = s := by
  simpa using List.find?_some h

end NativeType

end WideColumn
