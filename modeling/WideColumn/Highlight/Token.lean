import WideColumn.ColumnType.Native
import WideColumn.GeneratedFile
import WideColumn.Highlight.Style
import WideColumn.Text.Alphanumeric
import WideColumn.Text.Ascii
import WideColumn.Text.Blank
import WideColumn.Text.Casing

/-!
# Tokens of a highlighted line

A line is cut into words, blanks, punctuation, the characters of quoted texts and a comment, each
with the style it is shown in. The cut loses nothing: put together, the tokens are the line. A
quoted text ends with its line at the latest, and nothing inside it is a comment or a word.

Main definitions: `Highlight.Token`, `Highlight.wordStyle`, `Highlight.tokens`.
-/

namespace WideColumn.Highlight

open Text

/-- A part of a line with its style. -/
structure Token where
  style : Style
  text : List Char
  deriving DecidableEq

/-! ## Words -/

/-- Words with a meaning of their own in TypeScript. -/
def typeScriptKeywords : List String :=
  ["import", "from", "export", "default", "interface", "type", "const", "new", "extends", "as",
   "null", "undefined", "return", "if", "throw", "process"]

/-- Words with a meaning of their own in CQL, in capitals. -/
def cqlKeywords : List String :=
  ["CREATE", "TABLE", "PRIMARY", "KEY", "WITH", "CLUSTERING", "ORDER", "BY", "ASC", "DESC",
   "STATIC", "FROZEN"]

/-- Names of types in TypeScript. -/
def typeScriptTypes : List String :=
  ["string", "number", "boolean", "unknown", "never", "object", "Date", "Buffer", "Record",
   "Promise"]

/-- Names of parameterized types in CQL, in small letters. -/
def cqlFamilies : List String := ["list", "set", "map", "tuple", "vector"]

/-- The word is a keyword. Those of CQL may be written in any case. -/
def isKeyword : Language → List Char → Bool
  | .typeScript, word => typeScriptKeywords.contains (String.ofList word)
  | .cql, word => cqlKeywords.contains (String.ofList (upper word))

/-- The word names a type. Those of CQL may be written in any case. -/
def isTypeName : Language → List Char → Bool
  | .typeScript, word => typeScriptTypes.contains (String.ofList word)
  | .cql, word =>
    let name := String.ofList (asciiLower word)
    (NativeType.ofName? name).isSome || cqlFamilies.contains name

/-- The style of a word. -/
def wordStyle (language : Language) (word : List Char) : Style :=
  if isKeyword language word then .boldBlue
  else if isTypeName language word then .magenta
  else if word.all Char.isDigit then .yellow
  else .plain

/-! ## Cutting a line -/

/-- What a comment begins with. -/
def commentMark : Language → List Char
  | .typeScript => ['/', '/']
  | .cql => ['-', '-']

/-- The character begins a quoted text, which the same character ends. -/
def isQuote (c : Char) : Bool := c = '\'' || c = '"' || c = '\x60'

/-- The character belongs to a word. -/
def isWordChar (c : Char) : Bool := isAlphanumeric c || c = '_' || c = '$'

/-- The token of the word that has been read, last character first. -/
def wordToken (language : Language) (word : List Char) : List Token :=
  if word.isEmpty then [] else [⟨wordStyle language word.reverse, word.reverse⟩]

/-- The tokens of the rest of a line. `quote` is the character that ends the quoted text the rest
stands in, and `word` is the word being read, last character first. -/
def tokensFrom (language : Language) :
    (quote : Option Char) → (word : List Char) → List Char → List Token
  | _, word, [] => wordToken language word
  | some q, word, c :: r =>
    ⟨.green, [c]⟩ :: tokensFrom language (if c = q then none else some q) word r
  | none, word, c :: r =>
    if (commentMark language).isPrefixOf (c :: r) then
      wordToken language word ++ [⟨.dimmed, c :: r⟩]
    else if isQuote c then
      wordToken language word ++ ⟨.green, [c]⟩ :: tokensFrom language (some c) [] r
    else if isWordChar c then tokensFrom language none (c :: word) r
    else
      wordToken language word
        ++ ⟨if isBlank c then .plain else .cyan, [c]⟩ :: tokensFrom language none [] r

/-- The tokens of a line. -/
def tokens (language : Language) (line : List Char) : List Token := tokensFrom language none [] line

end WideColumn.Highlight
