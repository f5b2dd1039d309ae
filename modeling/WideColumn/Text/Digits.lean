/-!
# Numbers in text

Positions, ports and dimensions appear in texts as plain numerals. Writing takes the digits of a
number without sign or padding; reading a bounded number allows one plus sign in front and leading
zeros, and refuses an empty text, any other character and a value out of bounds.

Main definitions: `Text.ofNat`, `Text.ofInt`, `Text.hex`, `Text.decimalValue`, `Text.hexDigit?`,
`Text.readBelow?`, `Text.doubleLimit`.
-/

namespace WideColumn.Text

/-! ## Writing -/

/-- The decimal digits of a number. -/
def ofNat (n : Nat) : List Char := Nat.toDigits 10 n

/-- The decimal digits of a number, with a minus sign when it is negative. -/
def ofInt : Int → List Char
  | .ofNat n => ofNat n
  | .negSucc n => '-' :: ofNat (n + 1)

/-- The hexadecimal digits of a number, in small letters and without padding. -/
def hex (n : Nat) : List Char := Nat.toDigits 16 n

/-! ## Reading -/

/-- The number that decimal digits stand for, most significant first. -/
def decimalValue (s : List Char) : Nat :=
  s.foldl (fun n c => 10 * n + (c.toNat - '0'.toNat)) 0

/-- The value of a hexadecimal digit. -/
def hexDigit? (c : Char) : Option Nat :=
  if c.isDigit then some (c.toNat - '0'.toNat)
  else if 'a' ≤ c && c ≤ 'f' then some (c.toNat - 'a'.toNat + 10)
  else if 'A' ≤ c && c ≤ 'F' then some (c.toNat - 'A'.toNat + 10)
  else none

/-- The number that digits of a base up to 16 stand for, most significant first. -/
def valueIn (base : Nat) (s : List Char) : Nat :=
  s.foldl (fun n c => base * n + (hexDigit? c).getD 0) 0

/-- The text is one digit or more and nothing else. -/
def isNumeral (s : List Char) : Bool := !s.isEmpty && s.all Char.isDigit

/-- The text without one plus sign in front. -/
def dropPlus : List Char → List Char
  | '+' :: r => r
  | s => s

/-- The number below `bound` that the text stands for. -/
def readBelow? (bound : Nat) (s : List Char) : Option Nat :=
  let digits := dropPlus s
  if isNumeral digits && decimalValue digits < bound then some (decimalValue digits) else none

/-! ## Doubles -/

/-- The least number that rounds to infinity when a double has to hold it. -/
def doubleLimit : Nat := Nat.pow 2 1024 - Nat.pow 2 970

end WideColumn.Text
