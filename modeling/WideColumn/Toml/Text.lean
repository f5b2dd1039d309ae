import WideColumn.Text.Digits
import WideColumn.Toml.Reader

/-!
# Space, strings and keys

A document is a sequence of lines, which end in a newline or in a carriage return and a newline;
a carriage return has no other place. Only a tab and a space are blank, and no other control
character may stand anywhere.

A string is delimited by one quote on each side, or by three, which lets it run over lines. Between
double quotes a backslash starts an escape; between single quotes everything stands for itself. A
key is a bare word or a string of one line, and a dotted key is a path of these.

Main definitions: `Toml.blanks`, `Toml.newline`, `Toml.comment`, `Toml.string`, `Toml.Path`,
`Toml.path`.
-/

namespace WideColumn.Toml

open Reader

/-! ## Space -/

/-- A blank of a document. -/
def isBlank (c : Char) : Bool := c = ' ' || c = '\t'

/-- A character that may stand in a comment: anything but controls, of which a tab is allowed. -/
def isVisible (c : Char) : Bool := c = '\t' || (0x20 ≤ c.toNat && c.toNat != 0x7F)

/-- Skips blanks. -/
def blanks : Reader Unit := do
  let _ ← takeWhile isBlank

/-- Reads the end of a line, which counts as a newline however it is written. -/
def newline : Reader Char := char '\n' <|> (literal ['\r', '\n'] *> pure '\n')

/-- Reads a comment, which runs to the end of its line. -/
def comment : Reader Unit := do
  let _ ← char '#'
  let _ ← takeWhile isVisible

/-- Skips blanks, comments and ends of lines. -/
def filler : Reader Unit := do
  let _ ← many ((do let _ ← takeWhile1 isBlank) <|> (do let _ ← newline) <|> comment)

/-! ## Escapes -/

/-- The character that a letter after a backslash stands for. -/
def escaped? : Char → Option Char
  | 'b' => some '\x08'
  | 't' => some '\t'
  | 'n' => some '\n'
  | 'f' => some '\x0c'
  | 'r' => some '\r'
  | '"' => some '"'
  | '\\' => some '\\'
  | _ => none

/-- Reads the code point of an escape. Half of a surrogate pair is no character. -/
def codePoint (digits : Nat) : Reader Char := do
  let code := Text.valueIn 16 (← exactly (fun c => (Text.hexDigit? c).isSome) digits)
  if code.isValidChar then return Char.ofNat code else failure

/-- Reads an escape, which stands for one character. -/
def escape : Reader Char := do
  let _ ← char '\\'
  (char 'u' *> codePoint 4) <|> (char 'U' *> codePoint 8) <|> do
    match escaped? (← satisfy fun _ => true) with
    | some c => return c
    | none => failure

/-- Reads a backslash at the end of a line, which joins the line to the next word. -/
def joinedLine : Reader Unit := do
  let _ ← char '\\'
  blanks
  let _ ← newline
  let _ ← many (satisfy isBlank <|> newline)

/-! ## Strings -/

/-- A character that stands for itself between double quotes. -/
def isBasic (c : Char) : Bool := isVisible c && c != '"' && c != '\\'

/-- A character that stands for itself between single quotes. -/
def isLiteral (c : Char) : Bool := isVisible c && c != '\''

/-- Reads a string in double quotes on one line. -/
def basicString : Reader (List Char) :=
  char '"' *> many (satisfy isBasic <|> escape) <* char '"'

/-- Reads a string in single quotes on one line. -/
def literalString : Reader (List Char) := char '\'' *> takeWhile isLiteral <* char '\''

/-- Reads a quote that is part of the text. Three quotes end the text, and up to two more may stand
before them. -/
def innerQuote (quote : Char) : Reader Char := fun rest =>
  let run := (rest.takeWhile (· = quote)).length
  if run = 3 || run > 5 then none else char quote rest

/-- Reads a string between three quotes on each side. An end of line right after the first three is
not part of the text. -/
def longString (quote : Char) (part : Reader (List Char)) : Reader (List Char) := do
  literal [quote, quote, quote]
  let _ ← optional newline
  let parts ← many (part <|> (do return [← innerQuote quote]))
  literal [quote, quote, quote]
  return parts.flatten

/-- Reads a part of a long string in double quotes. -/
def longBasicPart : Reader (List Char) :=
  takeWhile1 isBasic <|> (joinedLine *> pure []) <|> (do return [← escape]) <|>
    (do return [← newline])

/-- Reads a part of a long string in single quotes. -/
def longLiteralPart : Reader (List Char) := takeWhile1 isLiteral <|> (do return [← newline])

/-- Reads a string. -/
def string : Reader String := do
  let text ← longString '"' longBasicPart <|> basicString <|>
    longString '\'' longLiteralPart <|> literalString
  return String.ofList text

/-! ## Keys -/

/-- A character of a bare key. -/
def isBare (c : Char) : Bool := c.isAlphanum || c = '_' || c = '-'

/-- Reads one key, with any blanks around it. -/
def key : Reader String := do
  blanks
  let text ← takeWhile1 isBare <|> basicString <|> literalString
  blanks
  return String.ofList text

/-- Where a value or a table goes: down the tables of the first keys, to the last key. -/
structure Path where
  parents : List String
  last : String

/-- A path may have at most this many keys. -/
def maxKeys : Nat := 79

/-- Reads a dotted key. -/
def path : Reader Path := do
  let keys ← sepBy1 key (do let _ ← char '.')
  if keys.length > maxKeys then failure
  match keys.getLast? with
  | some last => return ⟨keys.dropLast, last⟩
  | none => failure

end WideColumn.Toml
