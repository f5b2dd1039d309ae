import WideColumn.Text.Digits

/-!
# Escapes in edit scripts

A backslash in a script may begin the name of a character: a letter for some control characters, `c`
and the character that the control key is pressed with, or the number of a character in a base that
a letter names. What the names stand for is put in their place. What a backslash means apart from
this is left to those who read the text next, but in texts that are printed as they are a backslash
only keeps what follows from being read.

Main definitions: `Edit.Use`, `Edit.unescape?`.
-/

namespace WideColumn.Formatter.Edit

/-- What a text with escapes is for. -/
inductive Use where
  | pattern
  | replacement
  | characters
  | text
  deriving DecidableEq

/-- The control character that a letter names. -/
def controlNamed? : Char → Option Char
  | 'a' => some '\x07'
  | 'f' => some '\x0c'
  | 'n' => some '\n'
  | 'r' => some '\r'
  | 't' => some '\t'
  | 'v' => some '\x0b'
  | _ => none

/-- The base that a letter names, and the greatest number of digits. -/
def baseNamed? : Char → Option (Nat × Nat)
  | 'd' => some (10, 3)
  | 'o' => some (8, 3)
  | 'x' => some (16, 2)
  | _ => none

/-- The character is a digit in a base. -/
def isDigitIn (base : Nat) (c : Char) : Bool := (Text.hexDigit? c).any (· < base)

/-- The character that comes of the control key and another one. -/
def control (c : Char) : Char := Char.ofNat (c.toUpper.toNat ^^^ 64)

/-- A character that was named by its number, as the use wants it: in a replacement it is kept from
being an operator. -/
def named (use : Use) (c : Char) : List Char :=
  if (use = .replacement && (c = '&' || c = '\\')) || (use = .characters && c = '\\') then ['\\', c]
  else [c]

/-- Puts characters in place of their names. `skipped` characters belong to a name that was read.
None if a control character is made of an escape. -/
def unescapeFrom (use : Use) : (skipped : Nat) → List Char → Option (List Char)
  | _, [] => some []
  | skipped + 1, _ :: r => unescapeFrom use skipped r
  | 0, '\\' :: c :: r =>
    if let some named := controlNamed? c then (unescapeFrom use 1 (c :: r)).map (named :: ·)
    else if c = 'c' then
      match r with
      | [] => some ['\\']
      | '\\' :: '\\' :: _ => (unescapeFrom use 3 (c :: r)).map (control '\\' :: ·)
      | '\\' :: _ => none
      | d :: _ => (unescapeFrom use 2 (c :: r)).map (control d :: ·)
    else if let some (base, length) := baseNamed? c then
      let digits := (r.take length).takeWhile (isDigitIn base)
      if digits.isEmpty then (unescapeFrom use 1 (c :: r)).map (c :: ·)
      else
        let found := Char.ofNat (Text.valueIn base digits % 256)
        (unescapeFrom use (digits.length + 1) (c :: r)).map (named use found ++ ·)
    else
      let kept := if use = .text then [c] else ['\\', c]
      (unescapeFrom use 1 (c :: r)).map (kept ++ ·)
  | 0, c :: r => (unescapeFrom use 0 r).map (c :: ·)

/-- Puts characters in place of their names. None if a control character is made of an escape. -/
def unescape? (use : Use) (s : List Char) : Option (List Char) := unescapeFrom use 0 s

end WideColumn.Formatter.Edit
