import WideColumn.ColumnType.Native

/-!
# Column types

A column has a native type or a parameterized one built from other column types. A type that the
catalog spells in a way this library does not know is `unknown`, alone or as an argument.

Main definitions: `ColumnType`, `ColumnType.containsUnknown`.
-/

namespace WideColumn

/-- The type of a column. -/
inductive ColumnType where
  /-- A scalar. -/
  | native (type : NativeType)
  /-- An ordered collection. -/
  | list (element : ColumnType)
  /-- A collection without repetition. -/
  | set (element : ColumnType)
  /-- Values found by their keys. -/
  | map (key value : ColumnType)
  /-- A fixed number of components, each with a type of its own. -/
  | tuple (components : List ColumnType)
  /-- A fixed number of elements of one type. -/
  | vector (element : ColumnType) (dimension : UInt32)
  /-- A type this library cannot name. -/
  | unknown
  deriving Repr

namespace ColumnType

mutual

/-- The type is unknown or has an argument, at any depth, that is. -/
def containsUnknown : ColumnType → Bool
  | native _ => false
  | unknown => true
  | list element | set element | vector element _ => element.containsUnknown
  | map key value => key.containsUnknown || value.containsUnknown
  | tuple components => anyContainsUnknown components

/-- Some type of the list is unknown or has an argument that is. -/
def anyContainsUnknown : List ColumnType → Bool
  | [] => false
  | t :: r => t.containsUnknown || anyContainsUnknown r

end

theorem anyContainsUnknown_eq_any (ts : List ColumnType) :
    anyContainsUnknown ts = ts.any containsUnknown := by
  induction ts with
  | nil => rfl
  | cons t r ih => simp [anyContainsUnknown, ih]

end ColumnType

end WideColumn
