import WideColumn.Text.Digits
import WideColumn.Text.Quoted

/-!
# Log records

A run tells what it does in records. A record has a level, the area of the program that it comes
from, a message, and fields that carry values. Its line shows the level right-aligned, then the
message, then the fields in order. A message may hold text from anywhere, so the line does not show
what a terminal might take for a command.

Main definitions: `Log.Level`, `Log.Area`, `Log.Field`, `Log.Record`, `Log.Record.line`.
-/

namespace WideColumn.Log

/-- How much a record matters. -/
inductive Level where
  | trace
  | debug
  | info
  | warn
  | error
  deriving DecidableEq, Repr

namespace Level

/-- The name of a level. -/
def name : Level → String
  | trace => "TRACE"
  | debug => "DEBUG"
  | info => "INFO"
  | warn => "WARN"
  | error => "ERROR"

/-- A level matters more than those of a smaller rank. -/
def rank : Level → Nat
  | trace => 0
  | debug => 1
  | info => 2
  | warn => 3
  | error => 4

end Level

/-- The part of the program that a record comes from. -/
inductive Area where
  | program
  | commands
  | generation
  | sink
  | formatter
  | fixture
  | cluster
  deriving DecidableEq, Repr

/-- The name by which a filter selects the records of an area. -/
def Area.name : Area → String
  | program => "scylla_gen"
  | commands => "scylla_gen::commands"
  | generation => "scylla_gen::commands::generate"
  | sink => "scylla_gen::sink"
  | formatter => "scylla_gen::format"
  | fixture => "scylla_gen_catalog::fixture"
  | cluster => "scylla_gen_catalog::driver"

/-- A value that a record carries, as it is shown. -/
structure Field where
  name : String
  text : String
  deriving DecidableEq

namespace Field

/-- A field that shows a text as it is. -/
def plain (name text : String) : Field := ⟨name, text⟩

/-- A field that shows a text in quotes. -/
def quoted (name text : String) : Field := ⟨name, Text.quoted text⟩

/-- A field that shows several texts in quotes. -/
def quotedList (name : String) (texts : List String) : Field :=
  ⟨name, "[" ++ ", ".intercalate (texts.map Text.quoted) ++ "]"⟩

/-- A field that shows a number. -/
def count (name : String) (n : Nat) : Field := ⟨name, String.ofList (Text.ofNat n)⟩

end Field

/-- One thing that a run tells. -/
structure Record where
  level : Level
  area : Area
  message : String
  fields : List Field := []
  deriving DecidableEq

/-! ## Lines -/

/-- The character may begin or be a command to a terminal: bell, backspace, form feed, escape,
delete and the controls after the ASCII characters. -/
def isTerminalControl (c : Char) : Bool :=
  [0x07, 0x08, 0x0C, 0x1B, 0x7F].contains c.toNat || (0x80 ≤ c.toNat && c.toNat ≤ 0x9F)

/-- What stands in a line for one character of a message. A character that a terminal might obey is
written by its code point: an ASCII one with two digits, any other in braces. -/
def messageChar (c : Char) : List Char :=
  if !isTerminalControl c then [c]
  else if c.toNat < 0x10 then ['\\', 'x', '0'] ++ Text.hex c.toNat
  else if c.toNat < 0x80 then ['\\', 'x'] ++ Text.hex c.toNat
  else ['\\', 'u', '{'] ++ Text.hex c.toNat ++ ['}']

/-- The line of a record, without its end. -/
def Record.line (record : Record) : String :=
  let name := record.level.name
  let margin := String.ofList (List.replicate (5 - name.length) ' ')
  let message := String.ofList (record.message.toList.flatMap messageChar)
  String.join ([margin, name, " ", message] ++
    record.fields.map fun field => " " ++ field.name ++ "=" ++ field.text)

end WideColumn.Log
