import WideColumn.Schema.Table

/-!
# Diagnostics

Some oddities of a table do not stop a model from being made, but whoever makes it should know: a
type that is not known becomes `unknown`, and the positions of key columns should count 0, 1, 2, ….

Main definitions: `Diagnostic`, `Diagnostic.message`, `Table.diagnostics`.
-/

namespace WideColumn

open Text

/-- Something odd about a table. -/
inductive Diagnostic where
  /-- The type of a column is unknown, or a part of it is. -/
  | unknownType (table column rawType : String)
  /-- Two neighbouring key columns share a position. -/
  | duplicatePosition (table : String) (kind : ColumnKind) (position : Int) (first second : String)
  /-- No key column has a position from `expected` up to, but without, `found`. -/
  | positionGap (table : String) (kind : ColumnKind) (expected found : Int)
  /-- A key column has a position below zero. -/
  | negativePosition (table : String) (kind : ColumnKind) (column : String) (position : Int)
  deriving DecidableEq

/-- A number as it stands in a message. -/
def Diagnostic.number (i : Int) : String := String.ofList (ofInt i)

/-- The diagnostic in words. -/
def Diagnostic.message : Diagnostic → String
  | unknownType table column rawType =>
    table ++ "." ++ column ++ ": unsupported type " ++ quoted rawType ++ " rendered as unknown"
  | duplicatePosition table kind position first second =>
    table ++ ": " ++ kind.name ++ " columns " ++ first ++ " and " ++ second ++ " share position "
      ++ number position
  | positionGap table kind expected found =>
    table ++ ": " ++ kind.name ++ " positions skip from " ++ number expected ++ " to "
      ++ number found
  | negativePosition table kind column position =>
    table ++ "." ++ column ++ ": " ++ kind.name ++ " column has negative position "
      ++ number position

namespace Table

/-! ## What is odd about types -/

/-- One diagnostic for each column with an unknown part, in catalog order. -/
def typeDiagnostics (table : Table) : List Diagnostic :=
  (table.columns.filter (·.type.containsUnknown)).map fun c =>
    .unknownType table.name c.name c.rawType

/-! ## What is odd about positions -/

/-- One diagnostic for each pair of neighbours with one position. -/
def sharedPositions (table : String) (kind : ColumnKind) : List Column → List Diagnostic
  | a :: b :: r =>
    let rest := sharedPositions table kind (b :: r)
    if a.position = b.position then
      .duplicatePosition table kind a.position.toInt a.name b.name :: rest
    else rest
  | _ => []

/-- The greatest position that a column can have. -/
def lastPosition : Int := 2147483647

/-- Negative positions and gaps along sorted key columns, where `expected` is the least position
that no column before has reached. It counts no further than the last position. -/
def positionFaults (table : String) (kind : ColumnKind) : (expected : Int) → List Column →
    List Diagnostic
  | _, [] => []
  | expected, c :: r =>
    let position := c.position.toInt
    if position < 0 then
      .negativePosition table kind c.name position :: positionFaults table kind expected r
    else
      let next := min (position + 1) lastPosition
      let rest := positionFaults table kind (max expected next) r
      if position > expected then .positionGap table kind expected position :: rest else rest

/-- What is odd about the positions of one kind of key columns. -/
def keyDiagnostics (table : Table) (kind : ColumnKind) : List Diagnostic :=
  sharedPositions table.name kind (table.keys kind)
    ++ positionFaults table.name kind 0 (table.keys kind)

/-- Everything odd about a table: its types first, then each kind of key columns. -/
def diagnostics (table : Table) : List Diagnostic :=
  table.typeDiagnostics ++ table.keyDiagnostics .partitionKey ++ table.keyDiagnostics .clustering

end Table

end WideColumn
