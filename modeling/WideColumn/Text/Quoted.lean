import WideColumn.Text.Digits
import WideColumn.Text.Printable

/-!
# Quoted text in messages

A message shows a text of unknown content between double quotes, so that blanks at its ends and
characters without a glyph can be seen. A quote and a backslash are escaped by a backslash, the
common controls have letters, and any other character that is not printable, or that would join the
quote before it, is written by its code point.

Main definitions: `Text.quoteChar`, `Text.quoted`.
-/

namespace WideColumn.Text

/-- What stands for one character between the quotes. -/
def quoteChar (c : Char) : List Char :=
  if c = Char.ofNat 0 then ['\\', '0']
  else if c = '\t' then ['\\', 't']
  else if c = '\r' then ['\\', 'r']
  else if c = '\n' then ['\\', 'n']
  else if c = '\\' then ['\\', '\\']
  else if c = '"' then ['\\', '"']
  else if !isExtending c && isPrintable c then [c]
  else ['\\', 'u', '{'] ++ hex c.toNat ++ ['}']

/-- The text in double quotes, with its special characters escaped. -/
def quoted (s : String) : String :=
  String.ofList (['"'] ++ s.toList.flatMap quoteChar ++ ['"'])

end WideColumn.Text
