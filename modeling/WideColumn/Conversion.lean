import WideColumn.ColumnType.Basic
import WideColumn.Script.Expr

/-!
# Converters

The database driver hands out some values in classes of its own. A model holds plain values, so a
column of such a type has a converter, and a column whose values are plain already has none.

Main definitions: `Conversion`, `ColumnType.conversion`, `Conversion.expr`, `Conversion.toModel`.
-/

namespace WideColumn

/-- A conversion from a value of the driver to the value of the model. -/
inductive Conversion where
  /-- A big number becomes a plain number. -/
  | toNumber
  /-- An identifier, an address or a time becomes its text. -/
  | toString
  /-- A point in time becomes a date object. -/
  | toDate
  /-- A tuple becomes the array of its components, each converted if it needs to be. -/
  | tuple (components : List (Option Conversion))
  /-- A vector becomes an array. -/
  | arrayFrom
  /-- Every element of a list or set is converted. -/
  | each (element : Conversion)
  /-- Every value of a map is converted, and its key kept. -/
  | values (value : Conversion)
  deriving Repr

/-! ## Which types need one -/

/-- The converter of a scalar. -/
def NativeType.conversion : NativeType → Option Conversion
  | bigint | counter | varint | decimal => some .toNumber
  | uuid | timeuuid | inet | date | time | duration => some .toString
  | timestamp => some .toDate
  | ascii | blob | boolean | double | float | int | smallint | text | tinyint | varchar => none

namespace ColumnType

mutual

/-- The converter of a column type. The keys of a map arrive as property names, so only its values
are converted. -/
def conversion : ColumnType → Option Conversion
  | native type => type.conversion
  | list element | set element => element.conversion.map .each
  | map _ value => value.conversion.map .values
  | tuple components => some (.tuple (conversions components))
  | vector _ _ => some .arrayFrom
  | unknown => none

/-- The converters of several column types, by position. -/
def conversions : List ColumnType → List (Option Conversion)
  | [] => []
  | t :: r => t.conversion :: conversions r

end

theorem conversions_eq_map (ts : List ColumnType) : conversions ts = ts.map conversion := by
  induction ts with
  | nil => rfl
  | cons t r ih => simp [conversions, ih]

end ColumnType

/-! ## The script of a converter -/

namespace Conversion

open Script

mutual

/-- The converted value of the expression `value`. A tuple without converters is the array of its
components; with one, the components are bound to a name and rebuilt one by one. -/
def expr : Conversion → (value : Expr) → Expr
  | toNumber, value => value.invoke "toNumber" []
  | toString, value => value.invoke "toString" []
  | toDate, value => .create "Date" [value]
  | tuple components, value =>
    if components.all Option.isNone then value.invoke "values" []
    else
      .call (.arrow (.whole "items") (.array (componentExprs 0 components)))
        [value.invoke "values" []]
  | arrayFrom, value => (Expr.ident "Array").invoke "from" [value]
  | each element, value =>
    value.invoke "map" [.arrow (.whole "item") (element.expr (.ident "item"))]
  | values inner, value =>
    (Expr.ident "Object").invoke "fromEntries"
      [((Expr.ident "Object").invoke "entries" [value]).invoke "map"
        [.arrow (.pair "k" "v") (.array [.ident "k", inner.expr (.ident "v")])]]

/-- The converted components of the array `items`, from the given index on. -/
def componentExprs (index : Nat) : List (Option Conversion) → List Expr
  | [] => []
  | none :: r => .item (.ident "items") index :: componentExprs (index + 1) r
  | some c :: r => c.expr (.item (.ident "items") index) :: componentExprs (index + 1) r

end

/-- The converter as a function of a mapper. It passes `null` and `undefined` through. -/
def toModelExpr (c : Conversion) : Expr :=
  .arrow (.whole "val") (.ifNull (.ident "val") (.ident "val") (c.expr (.ident "val")))

/-- The converter as it is written in a model. -/
def toModel (c : Conversion) : String := c.toModelExpr.text

end Conversion

end WideColumn
