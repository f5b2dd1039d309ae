/-!
# Identifiers of CQL

An identifier without quotes is folded to small letters, so every name that is not made of small
letters, digits and underscores alone is written between double quotes, where it keeps its spelling
and a quote inside it is doubled.

Main definitions: `Cql.isPlain`, `Cql.quoteIdentifier`.
-/

namespace WideColumn.Cql

/-- A character that an unquoted identifier may begin with without being folded. -/
def isPlainStart (c : Char) : Bool := c.isLower || c = '_'

/-- A character that an unquoted identifier may go on with without being folded. -/
def isPlainRest (c : Char) : Bool := c.isLower || c.isDigit || c = '_'

/-- The name keeps its spelling without quotes. -/
def isPlain : List Char → Bool
  | [] => false
  | c :: r => isPlainStart c && r.all isPlainRest

/-- The text with every double quote written twice. -/
def doubleQuotes : List Char → List Char
  | [] => []
  | c :: r => if c = '"' then '"' :: '"' :: doubleQuotes r else c :: doubleQuotes r

/-- The name as an identifier, quoted only if it has to be. -/
def quoteIdentifier (name : String) : String :=
  if isPlain name.toList then name
  else String.ofList (['"'] ++ doubleQuotes name.toList ++ ['"'])

end WideColumn.Cql
