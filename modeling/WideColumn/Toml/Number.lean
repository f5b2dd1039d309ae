import WideColumn.Text.Digits
import WideColumn.Toml.Reader

/-!
# Numbers, dates and times

An integer has 64 bits and is written with a sign and decimal digits, or without one in base 16, 8
or 2. An underscore may stand between two digits, and a decimal number does not begin with a zero. A
float has a fraction, an exponent or both, or is infinite or not a number. A date may stand alone,
as may a time of the day, and both together may name their distance from universal time.

No setting is a float or a date, so their readers check the form and keep no value.

Main definitions: `Toml.integer`, `Toml.float`, `Toml.dateTime`.
-/

namespace WideColumn.Toml

open Reader

/-! ## Digits -/

/-- Reads digits, with an underscore between some of them. -/
def digits (isDigit : Char → Bool) : Reader (List Char) := do
  let c ← satisfy isDigit
  return c :: (← many (satisfy isDigit <|> (char '_' *> satisfy isDigit)))

/-- Reads a sign if there is one; it tells whether the number is negative. -/
def sign : Reader Bool := (char '-' *> pure true) <|> (char '+' *> pure false) <|> pure false

/-- Reads decimal digits that are a zero, or do not begin with one. -/
def whole : Reader (List Char) := (do return [← char '0']) <|> digits Char.isDigit

/-- Reads exactly so many decimal digits. -/
def fixed (count : Nat) : Reader Nat := do
  return Text.decimalValue (← exactly Char.isDigit count)

/-! ## Integers -/

/-- Integers have 64 bits: they are below this, and not below its negation. -/
def integerLimit : Nat := 9223372036854775808

/-- The character is a digit of the base. -/
def isDigitIn (base : Nat) (c : Char) : Bool := (Text.hexDigit? c).any (· < base)

/-- Reads an integer without a sign whose base is named in front. -/
def based (mark : Char) (base : Nat) : Reader Int := do
  literal ['0', mark]
  let value := Text.valueIn base (← digits (isDigitIn base))
  if value < integerLimit then return value else failure

/-- Reads a decimal integer. -/
def decimal : Reader Int := do
  let isNegative ← sign
  let size := Text.decimalValue (← whole)
  if isNegative then if size ≤ integerLimit then return -size else failure
  else if size < integerLimit then return size else failure

/-- Reads an integer. -/
def integer : Reader Int := based 'x' 16 <|> based 'o' 8 <|> based 'b' 2 <|> decimal

/-! ## Floats -/

/-- The exponent of a float. -/
def exponent : Reader Int := do
  let _ ← char 'e' <|> char 'E'
  let isNegative ← sign
  let size := Text.decimalValue (← digits Char.isDigit)
  return if isNegative then -size else size

/-- The number that the digits stand for, times the power of ten, is too large for a double. Far
from the limit the number of digits decides, so that no huge power is computed. -/
def exceedsDouble (digits : List Char) (power : Int) : Bool :=
  let significant := digits.dropWhile (· = '0')
  let magnitude := significant.length + power
  if significant.isEmpty || magnitude < 300 then false
  else if magnitude > 310 then true
  else
    Text.decimalValue significant * Nat.pow 10 power.toNat ≥
      Text.doubleLimit * Nat.pow 10 (-power).toNat

/-- Reads a float with digits. One that is too large is refused, but only above zero. -/
def finiteFloat : Reader Unit := do
  let isNegative ← sign
  let before ← whole
  let fraction ← optional (char '.' *> digits Char.isDigit)
  let power ← optional exponent
  if fraction.isNone && power.isNone then failure
  let after := fraction.getD []
  if !isNegative && exceedsDouble (before ++ after) (power.getD 0 - after.length) then failure

/-- Reads a float. -/
def float : Reader Unit :=
  finiteFloat <|> do
    let _ ← sign
    literal "inf".toList <|> literal "nan".toList

/-! ## Dates and times -/

/-- The number of days of a month. -/
def daysIn (year month : Nat) : Nat :=
  if month = 2 then
    if year % 4 = 0 && (year % 100 != 0 || year % 400 = 0) then 29 else 28
  else if [4, 6, 9, 11].contains month then 30
  else 31

/-- Reads a date that the calendar has. -/
def date : Reader Unit := do
  let year ← fixed 4
  let _ ← char '-'
  let month ← fixed 2
  let _ ← char '-'
  let day ← fixed 2
  guard (1 ≤ month ∧ month ≤ 12 ∧ 1 ≤ day ∧ day ≤ daysIn year month)

/-- Reads an hour and a minute. -/
def hourMinute : Reader Unit := do
  let hour ← fixed 2
  let _ ← char ':'
  let minute ← fixed 2
  guard (hour ≤ 23 ∧ minute ≤ 59)

/-- Reads a time of the day, whose second may be a leap second. -/
def time : Reader Unit := do
  hourMinute
  let _ ← char ':'
  let second ← fixed 2
  guard (second ≤ 60)
  let _ ← optional (char '.' *> takeWhile1 Char.isDigit)

/-- Reads the distance from universal time. -/
def offset : Reader Unit :=
  (do let _ ← char 'Z' <|> char 'z') <|>
  (do let _ ← char '+' <|> char '-'
      hourMinute)

/-- Reads a date, a time, or both. -/
def dateTime : Reader Unit :=
  (do date
      let _ ← optional do
        let _ ← char 'T' <|> char 't' <|> char ' '
        time
        let _ ← optional offset) <|>
  time

end WideColumn.Toml
