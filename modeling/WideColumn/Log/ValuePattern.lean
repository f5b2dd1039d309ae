import WideColumn.Text.Alphanumeric
import WideColumn.Text.Ascii
import WideColumn.Text.Digits

/-!
# Patterns for values

A directive of a log filter may say which values of a field it is for, by a number or by a pattern.
No record is selected by its values, so all that is asked of a pattern is whether it is one: its
groups and classes are closed, and what is to be repeated or escaped is there and can be.

Main definitions: `Log.ValuePattern.isValid`.
-/

namespace WideColumn.Log.ValuePattern

open Text

/-- The character may follow a backslash: a punctuation mark, which then stands for itself, or the
letter of a class, of a control or of a code point. The letters of word edges are none of these. -/
def isEscapable (c : Char) : Bool :=
  if c.toNat ≥ 0x80 then false
  else if isAlphanumeric c then "dDsSwWpPAzaftnrvxuU".toList.contains c
  else c != '<' && c != '>'

/-- What a reader of patterns is in the middle of. -/
structure Place where
  /-- Groups that are not closed. -/
  groups : Nat := 0
  /-- Classes that are not closed. -/
  classes : Nat := 0
  /-- There is something in front that can be repeated. -/
  isRepeatable : Bool := false
  /-- The class has just begun, so a closing bracket is a member. -/
  isClassStart : Bool := false

/-- The rest of a pattern is as it should be. -/
def continues (place : Place) : List Char → Bool
  | [] => place.groups = 0 && place.classes = 0
  | '\\' :: c :: r =>
    isEscapable c && continues { place with isRepeatable := true, isClassStart := false } r
  | '\\' :: [] => false
  | c :: r =>
    if place.classes > 0 then
      if c = '[' then
        continues { place with classes := place.classes + 1, isClassStart := true } r
      else if c = ']' && !place.isClassStart then
        continues { place with classes := place.classes - 1, isRepeatable := true } r
      else if c = '^' && place.isClassStart then continues place r
      else continues { place with isClassStart := false } r
    else if c = '[' then continues { place with classes := 1, isClassStart := true } r
    else if c = '(' then
      continues { place with groups := place.groups + 1, isRepeatable := false } r
    else if c = ')' then
      place.groups > 0 &&
        continues { place with groups := place.groups - 1, isRepeatable := true } r
    else if c = '|' then continues { place with isRepeatable := false } r
    else if c = '*' || c = '+' || c = '?' then place.isRepeatable && continues place r
    else if c = '{' then false
    else continues { place with isRepeatable := true } r

/-- The text is an exponent, or there is none. -/
def isExponent : List Char → Bool
  | [] => true
  | e :: r =>
    let digits := match r with
      | '+' :: digits | '-' :: digits => digits
      | digits => digits
    (e = 'e' || e = 'E') && isNumeral digits

/-- The text is a number without a sign: digits with or without a point and an exponent, or a word
for what is no finite number. -/
def isNumber (s : List Char) : Bool :=
  let rest := s.dropWhile Char.isDigit
  let hasDigits := s.head?.any Char.isDigit
  let isWord := ["inf", "infinity", "nan"].any fun word => eqIgnoringAsciiCase s word.toList
  isWord ||
    match rest with
    | '.' :: r =>
      (hasDigits || r.head?.any Char.isDigit) && isExponent (r.dropWhile Char.isDigit)
    | r => hasDigits && isExponent r

/-- The text is a number with a plus sign, which is no pattern and yet a value. -/
def isPositiveNumber : List Char → Bool
  | '+' :: s => isNumber s
  | _ => false

/-- The text is a number or a pattern. -/
def isValid (s : List Char) : Bool := isPositiveNumber s || continues {} s

end WideColumn.Log.ValuePattern
