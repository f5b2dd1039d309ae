import WideColumn.Text.Digits

/-!
# Numerals of JSON

A numeral is kept as it is written, since a reader may ask more of it than its value: a position has
to be written as a whole number, and a number that no double can hold is refused.

Main definitions: `Json.Numeral`, `Json.Numeral.read?`, `Json.Numeral.integer?`,
`Json.Numeral.overflows`.
-/

namespace WideColumn.Json

open Text

/-- The exponent of a numeral. -/
structure Exponent where
  isNegative : Bool
  digits : List Char
  deriving DecidableEq

/-- A numeral as it is written. -/
structure Numeral where
  isNegative : Bool
  /-- The digits before the point. -/
  whole : List Char
  /-- The digits after the point, if there is one. -/
  fraction : Option (List Char)
  exponent : Option Exponent
  deriving DecidableEq

namespace Numeral

/-! ## Reading -/

/-- The digits before the point are a zero, or do not begin with one. -/
def isWhole : List Char → Bool
  | ['0'] => true
  | c :: r => c.isDigit && c != '0' && r.all Char.isDigit
  | [] => false

/-- Reads the exponent, which is the rest of the numeral. -/
def readExponent? : List Char → Option (Option Exponent)
  | [] => some none
  | e :: r =>
    if e = 'e' || e = 'E' then
      let (isNegative, digits) := match r with
        | '-' :: digits => (true, digits)
        | '+' :: digits => (false, digits)
        | digits => (false, digits)
      if isNumeral digits then some (some ⟨isNegative, digits⟩) else none
    else none

/-- Reads a numeral that has the given sign. -/
def readUnsigned? (isNegative : Bool) (s : List Char) : Option Numeral :=
  let whole := s.takeWhile Char.isDigit
  if !isWhole whole then none
  else match s.dropWhile Char.isDigit with
    | '.' :: r =>
      let fraction := r.takeWhile Char.isDigit
      if fraction.isEmpty then none
      else (readExponent? (r.dropWhile Char.isDigit)).map (⟨isNegative, whole, some fraction, ·⟩)
    | r => (readExponent? r).map (⟨isNegative, whole, none, ·⟩)

/-- The numeral that the whole text is. -/
def read? : List Char → Option Numeral
  | '-' :: r => readUnsigned? true r
  | s => readUnsigned? false s

/-! ## Whole numbers -/

/-- The value of a numeral without point and exponent. A zero with a sign is not a whole number,
because no integer has the sign. -/
def integer? (n : Numeral) : Option Int :=
  match n.fraction, n.exponent with
  | none, none =>
    let value := decimalValue n.whole
    if n.isNegative then if value = 0 then none else some (-(value : Int)) else some value
  | _, _ => none

/-! ## Range -/

/-- The digits of a numeral that its significand has room for, as a number, and how many are left
over. The significand is a word of 64 bits. -/
def significand : (value : Nat) → List Char → Nat × Nat
  | value, [] => (value, 0)
  | value, c :: r =>
    let next := 10 * value + (c.toNat - '0'.toNat)
    if next < UInt64.size then significand next r else (value, r.length + 1)

/-- The number rounded to 53 significant bits, a half to the even neighbour. -/
def roundToDouble (n : Nat) : Nat :=
  let shift := Nat.log2 n + 1 - 53
  let unit := Nat.pow 2 shift
  let low := n % unit
  let high := n / unit
  if 2 * low > unit || (2 * low = unit && high % 2 = 1) then (high + 1) * unit else high * unit

/-- No double can hold the number. The significand and the power of ten are rounded before they are
multiplied, so a power of ten that is itself out of range decides alone. -/
def overflows (n : Numeral) : Bool :=
  let (wholePart, leftOver) := significand 0 n.whole
  let fraction := n.fraction.getD []
  let (digits, dropped) := if leftOver = 0 then significand wholePart fraction else (wholePart, 0)
  let kept := if leftOver = 0 then fraction.length - dropped else 0
  let written : Int := match n.exponent with
    | none => 0
    | some e => if e.isNegative then -(decimalValue e.digits : Int) else decimalValue e.digits
  let exponent : Int := written + leftOver - kept
  if digits = 0 || exponent < 0 then false
  else if exponent > 308 then true
  else roundToDouble digits * roundToDouble (Nat.pow 10 exponent.toNat) ≥ doubleLimit

end Numeral

end WideColumn.Json
