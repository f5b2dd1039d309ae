import WideColumn.Toml.Number
import WideColumn.Toml.Table
import WideColumn.Toml.Text

/-!
# Documents

A document has one statement a line: a header that opens a table, or a key with a value for the
table that was opened last. Statements are read first and carried out afterwards.

Arrays and tables written out as values nest only so deep, and the reader of values recurses on the
depth that is left.

Main definitions: `Toml.value`, `Toml.Statement`, `Toml.document`, `Toml.parse?`.
-/

namespace WideColumn.Toml

open Reader

/-! ## Values -/

/-- Reads a value that is neither an array nor a table. -/
def scalar : Reader Value :=
  (Value.string <$> string) <|> (dateTime *> pure .dateTime) <|> (float *> pure .float) <|>
    (Value.integer <$> integer) <|> (literal "true".toList *> pure (.boolean true)) <|>
    (literal "false".toList *> pure (.boolean false))

/-- Reads an array, which may run over lines and end in a comma. -/
def array (element : Reader Value) : Reader Value := do
  let _ ← char '['
  let elements ← sepBy (filler *> element <* filler) (do let _ ← char ',')
  if !elements.isEmpty then
    let _ ← optional (char ',')
  filler
  let _ ← char ']'
  return .array elements

/-- Reads a key with its value. -/
def pair (read : Reader Value) : Reader (Path × Value) := do
  let p ← path
  let _ ← char '='
  blanks
  let v ← read
  blanks
  return (p, v)

/-- Reads a table that is written out on one line. -/
def inlineTable (read : Reader Value) : Reader Value := do
  let _ ← char '{'
  let pairs ← sepBy (pair read) (do let _ ← char ',')
  blanks
  let _ ← char '}'
  match pairs.foldlM (fun members (p, v) => assign p.last v p.parents members) [] with
  | some members => return .table .inline members
  | none => failure

/-- Reads a value in which arrays and tables nest at most so deep. -/
def valueUpTo : (depth : Nat) → Reader Value
  | 0 => scalar
  | depth + 1 => scalar <|> array (valueUpTo depth) <|> inlineTable (valueUpTo depth)

/-- Arrays and tables written out as values nest at most this deep. -/
def maxDepth : Nat := 79

/-- Reads a value. -/
def value : Reader Value := valueUpTo maxDepth

/-! ## Statements -/

/-- What a line of a document says. -/
inductive Statement where
  /-- The table at the path is opened. -/
  | table (path : Path)
  /-- One more element of the array of tables at the path is opened. -/
  | element (path : Path)
  /-- A key of the open table, or of a table below it, has a value. -/
  | pair (path : Path) (value : Value)

/-- Reads a statement. -/
def statement : Reader Statement :=
  (Statement.element <$> (literal ['[', '['] *> path <* literal [']', ']'])) <|>
    (Statement.table <$> (char '[' *> path <* char ']')) <|>
    (do let (p, v) ← pair value
        return .pair p v)

/-- Reads a line without its end, which may have a statement and a comment. -/
def line : Reader (Option Statement) := do
  blanks
  let s ← optional statement
  blanks
  let _ ← optional comment
  return s

/-- Reads the statements of a document, up to the end of its last line. -/
def statements : Reader (List Statement) := do
  let lines ← many (line <* newline)
  let last ← line
  return (lines ++ [last]).filterMap id

/-! ## Documents -/

/-- A document that is carried out, with the keys that lead to the open table. -/
structure Document where
  members : Members
  opened : List String

namespace Document

/-- Carries out a statement, if what was said before allows it. -/
def run (document : Document) : Statement → Option Document
  | .table p =>
    (update (openTable p.last) p.parents document.members).map (⟨·, p.parents ++ [p.last]⟩)
  | .element p =>
    (update (openElement p.last) p.parents document.members).map (⟨·, p.parents ++ [p.last]⟩)
  | .pair p v =>
    (update (assign p.last v p.parents) document.opened document.members).map
      (⟨·, document.opened⟩)

/-- The document that statements make up. -/
def ofStatements (statements : List Statement) : Option Document :=
  statements.foldlM run ⟨[], []⟩

end Document

/-- A mark of the byte order in front of a document means nothing. -/
def dropMark : List Char → List Char
  | '\uFEFF' :: r => r
  | s => s

/-- The keys and values of the document that the whole text is. -/
def parse? (text : String) : Option Members :=
  ((parseAll statements (dropMark text.toList)).bind Document.ofStatements).map (·.members)

end WideColumn.Toml
