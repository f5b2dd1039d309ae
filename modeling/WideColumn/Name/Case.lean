import WideColumn.Text.Casing

/-!
# The case of names

Tables and columns are named in snake case, the fields of a model in camel case, its types in pascal
case and its file in kebab case. Each mapping touches only the places its rule names, so a name that
does not follow the convention keeps the rest of its spelling.

Main definitions: `Name.camel`, `Name.pascal`, `Name.kebab`.
-/

namespace WideColumn.Name

open Text

/-- A small ASCII letter after an underscore takes the underscore's place as a capital. An
underscore before anything else stays. -/
def camelChars : List Char → List Char
  | [] => []
  | [c] => [c]
  | c :: d :: r =>
    if c = '_' && d.isLower then d.toUpper :: camelChars r else c :: camelChars (d :: r)

/-- The text with its first character in capital form. -/
def capitalized : List Char → List Char
  | [] => []
  | c :: r => upperChar c ++ r

/-- A hyphen goes between a small ASCII letter or digit and the ASCII capital after it. -/
def hyphenated : List Char → List Char
  | [] => []
  | [c] => [c]
  | c :: d :: r =>
    if d.isUpper && (c.isLower || c.isDigit) then c :: '-' :: hyphenated (d :: r)
    else c :: hyphenated (d :: r)

/-- The camel-case form of a snake-case name. -/
def camel (name : String) : String := String.ofList (camelChars name.toList)

/-- The camel-case form of a snake-case name, with a capital in front. -/
def pascal (name : String) : String := String.ofList (capitalized (camelChars name.toList))

/-- The kebab-case form of a camel-case or pascal-case name. -/
def kebab (name : String) : String := String.ofList (lower (hyphenated name.toList))

end WideColumn.Name
