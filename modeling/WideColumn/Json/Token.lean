import WideColumn.Json.Numeral

/-!
# Tokens of JSON

A document is read in two steps, of which the first cuts it into tokens and drops the space between
them. The cut is strict: no space but the four characters of the format, no comments, no other words
than three, and no raw control characters in strings.

A string may spell a character by two escapes, one for each half of a surrogate pair. A string with
half of a pair is still a token, but it has no text, so that a reader that skips it need not object.

Main definitions: `Json.Piece`, `Json.decodePieces`, `Json.Token`, `Json.tokens?`.
-/

namespace WideColumn.Json

open Text

/-! ## Strings -/

/-- A part of a string: a character, or a code unit spelled by four hexadecimal digits. -/
inductive Piece where
  | char (c : Char)
  | unit (code : Nat)
  deriving DecidableEq

/-- The value of four hexadecimal digits. -/
def hexUnit? (a b c d : Char) : Option Nat :=
  match hexDigit? a, hexDigit? b, hexDigit? c, hexDigit? d with
  | some a, some b, some c, some d => some (((a * 16 + b) * 16 + c) * 16 + d)
  | _, _, _, _ => none

/-- The character that a letter after a backslash stands for. -/
def escaped? : Char → Option Char
  | '"' => some '"'
  | '\\' => some '\\'
  | '/' => some '/'
  | 'b' => some '\x08'
  | 'f' => some '\x0c'
  | 'n' => some '\n'
  | 'r' => some '\r'
  | 't' => some '\t'
  | _ => none

/-- Adds a piece in front of those that were read. -/
def consPiece (p : Piece) : Option (List Piece × List Char) → Option (List Piece × List Char) :=
  Option.map fun (pieces, rest) => (p :: pieces, rest)

/-- The pieces of a string up to its closing quote, and what follows the quote. -/
def scanString? : List Char → Option (List Piece × List Char)
  | [] => none
  | '"' :: r => some ([], r)
  | '\\' :: 'u' :: a :: b :: c :: d :: r =>
    match hexUnit? a b c d with
    | some code => consPiece (.unit code) (scanString? r)
    | none => none
  | '\\' :: e :: r =>
    match escaped? e with
    | some c => consPiece (.char c) (scanString? r)
    | none => none
  | c :: r => if c.toNat < 0x20 || c = '\\' then none else consPiece (.char c) (scanString? r)

/-- The code unit is the first half of a surrogate pair. -/
def isHighSurrogate (code : Nat) : Bool := 0xD800 ≤ code && code < 0xDC00

/-- The code unit is the second half of a surrogate pair. -/
def isLowSurrogate (code : Nat) : Bool := 0xDC00 ≤ code && code < 0xE000

/-- The text that pieces spell. There is none when half of a surrogate pair stands alone. -/
def decodePieces : List Piece → Option (List Char)
  | [] => some []
  | .char c :: r => (decodePieces r).map (c :: ·)
  | .unit high :: .unit low :: r =>
    if isHighSurrogate high then
      if isLowSurrogate low then
        (decodePieces r).map (Char.ofNat (0x10000 + (high - 0xD800) * 0x400 + (low - 0xDC00)) :: ·)
      else none
    else if isLowSurrogate high then none
    else (decodePieces (.unit low :: r)).map (Char.ofNat high :: ·)
  | .unit code :: r =>
    if isHighSurrogate code || isLowSurrogate code then none
    else (decodePieces r).map (Char.ofNat code :: ·)

theorem length_scanString? {s rest : List Char} {pieces : List Piece}
    (h : scanString? s = some (pieces, rest)) : rest.length < s.length := by
  fun_induction scanString? s generalizing pieces with
  | case1 => simp at h
  | case2 r =>
    simp only [Option.some.injEq, Prod.mk.injEq] at h
    simp [← h.2]
  | case3 a b c d r code hcode ih =>
    obtain ⟨⟨ps, r'⟩, hp, heq⟩ := Option.map_eq_some_iff.1 h
    simp only [Prod.mk.injEq] at heq
    obtain ⟨_, rfl⟩ := heq
    have := ih hp
    simp only [List.length_cons]; omega
  | case4 => simp at h
  | case5 e r hu c hc ih =>
    obtain ⟨⟨ps, r'⟩, hp, heq⟩ := Option.map_eq_some_iff.1 h
    simp only [Prod.mk.injEq] at heq
    obtain ⟨_, rfl⟩ := heq
    have := ih hp
    simp only [List.length_cons]; omega
  | case6 => simp at h
  | case7 => simp at h
  | case8 c r _ _ _ _ ih =>
    obtain ⟨⟨ps, r'⟩, hp, heq⟩ := Option.map_eq_some_iff.1 h
    simp only [Prod.mk.injEq] at heq
    obtain ⟨_, rfl⟩ := heq
    have := ih hp
    simp only [List.length_cons]; omega

/-! ## Tokens -/

/-- A token of a document. -/
inductive Token where
  | openArray
  | closeArray
  | openObject
  | closeObject
  | colon
  | comma
  | null
  | bool (value : Bool)
  | number (numeral : Numeral)
  /-- A string with its text, if it has one. -/
  | string (text : Option String)
  deriving DecidableEq

/-- A space between tokens. -/
def isSpace (c : Char) : Bool := c = ' ' || c = '\t' || c = '\n' || c = '\r'

/-- The token that is one character. -/
def punctuation? : Char → Option Token
  | '[' => some .openArray
  | ']' => some .closeArray
  | '{' => some .openObject
  | '}' => some .closeObject
  | ':' => some .colon
  | ',' => some .comma
  | _ => none

/-- The token that is a word. -/
def word? (s : List Char) : Option Token :=
  if s = "null".toList then some .null
  else if s = "true".toList then some (.bool true)
  else if s = "false".toList then some (.bool false)
  else none

/-- A character that a numeral may have. -/
def isNumeralChar (c : Char) : Bool :=
  c.isDigit || c = '-' || c = '+' || c = '.' || c = 'e' || c = 'E'

/-- A numeral begins with the character. -/
def isNumeralStart (c : Char) : Bool := c.isDigit || c = '-'

theorem length_dropWhile_lt {p : Char → Bool} {c : Char} {r : List Char} (h : p c = true) :
    ((c :: r).dropWhile p).length < (c :: r).length := by
  rw [List.dropWhile_cons, if_pos h]
  induction r with
  | nil => simp
  | cons d r ih =>
    rw [List.dropWhile_cons]
    split
    · simp only [List.length_cons] at ih ⊢; omega
    · simp

/-- The tokens of a document. -/
def tokens? (s : List Char) : Option (List Token) :=
  match s with
  | [] => some []
  | c :: r =>
    if isSpace c then tokens? r
    else match punctuation? c with
      | some token => (tokens? r).map (token :: ·)
      | none =>
        if c = '"' then
          match _ : scanString? r with
          | some (pieces, rest) =>
            (tokens? rest).map (.string ((decodePieces pieces).map String.ofList) :: ·)
          | none => none
        else if _ : isNumeralStart c = true then
          match Numeral.read? ((c :: r).takeWhile isNumeralChar) with
          | some numeral =>
            (tokens? ((c :: r).dropWhile isNumeralChar)).map (.number numeral :: ·)
          | none => none
        else if _ : c.isAlpha = true then
          match word? ((c :: r).takeWhile Char.isAlpha) with
          | some token => (tokens? ((c :: r).dropWhile Char.isAlpha)).map (token :: ·)
          | none => none
        else none
termination_by s.length
decreasing_by
  · simp
  · simp
  · have := length_scanString? ‹scanString? r = _›
    simp only [List.length_cons]; omega
  · have hc : isNumeralChar c = true := by
      have hs := ‹isNumeralStart c = true›
      simp only [isNumeralStart, Bool.or_eq_true] at hs
      rcases hs with hs | hs <;> simp [isNumeralChar, hs]
    exact length_dropWhile_lt hc
  · exact length_dropWhile_lt ‹c.isAlpha = true›

end WideColumn.Json
