import WideColumn.ColumnType.Basic

/-!
# Target types

Each column type has one TypeScript type that a model's field of it is declared with. The mapping
looks at nothing but the type, and a column type with an unknown part has `unknown` there.

Main definitions: `TargetType`, `TargetType.text`, `NativeType.target`, `ColumnType.target`.
-/

namespace WideColumn

/-- A TypeScript type that a field can have. -/
inductive TargetType where
  | string
  | number
  | boolean
  | buffer
  | date
  | array (element : TargetType)
  | record (key value : TargetType)
  | tuple (components : List TargetType)
  | unknown
  deriving Repr

namespace TargetType

/-! ## Text -/

mutual

/-- The characters of the declared type. -/
def chars : TargetType → List Char
  | string => "string".toList
  | number => "number".toList
  | boolean => "boolean".toList
  | buffer => "Buffer".toList
  | date => "Date".toList
  | array element => element.chars ++ "[]".toList
  | record key value =>
    "Record<".toList ++ key.chars ++ ", ".toList ++ value.chars ++ ">".toList
  | tuple components => "[".toList ++ commaSeparated components ++ "]".toList
  | unknown => "unknown".toList

/-- The characters of several types, with a comma and a space between neighbours. -/
def commaSeparated : List TargetType → List Char
  | [] => []
  | [t] => t.chars
  | t :: u :: r => t.chars ++ ", ".toList ++ commaSeparated (u :: r)

end

/-- The type as it is written in a declaration. -/
def text (t : TargetType) : String := String.ofList t.chars

/-- The keys of a record are property names, which are numbers or strings. -/
def keyDomain : TargetType → TargetType
  | number => number
  | _ => string

end TargetType

/-! ## The mapping -/

/-- The target of a scalar. -/
def NativeType.target : NativeType → TargetType
  | ascii | text | varchar => .string
  | boolean => .boolean
  | blob => .buffer
  | timestamp => .date
  | int | smallint | tinyint | float | double => .number
  | bigint | counter | varint | decimal => .number
  | uuid | timeuuid | inet | date | time | duration => .string

namespace ColumnType

mutual

/-- The target of a column type. A vector is an array of numbers whatever its elements are. -/
def target : ColumnType → TargetType
  | native type => type.target
  | list element | set element => .array element.target
  | map key value => .record key.target.keyDomain value.target
  | tuple components => .tuple (targets components)
  | vector _ _ => .array .number
  | unknown => .unknown

/-- The targets of several column types. -/
def targets : List ColumnType → List TargetType
  | [] => []
  | t :: r => t.target :: targets r

end

theorem targets_eq_map (ts : List ColumnType) : targets ts = ts.map target := by
  induction ts with
  | nil => rfl
  | cons t r ih => simp [targets, ih]

end ColumnType

end WideColumn
