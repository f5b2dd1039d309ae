import Mathlib.Data.List.TakeWhile
import WideColumn.Proofs.Script.StringLiteral
import WideColumn.Proofs.Script.Token
import WideColumn.Text.Split

/-!
# Property names of scripts

The key of a property is an identifier, a numeral or a string literal. All three are cut from a text
as far as they go, and each denotes a name: an identifier the characters that it is made of, a
literal its text, and a numeral the text of its number. Here a key is written as the bare name, so
the question is which names denote themselves. Literals never do, for they are longer than their
text, and so are identifiers with escapes.

Which characters beyond ASCII belong to an identifier depends on the version of Unicode, and how a
number is written is a matter of doubles, so both are left to a `Dialect`. Whatever it says, a whole
number below 2⁵³ without leading zeros is written as its digits.

Main definitions: `Dialect`, `isNumeral`, `Dialect.readKey?`, `Dialect.isKey`.
Main results: `Dialect.readKey?_iff`, `Dialect.isKey_ofNat`.
-/

namespace WideColumn.Script

open Text

/-! ## Numerals -/

/-- The text is groups of digits with single underscores between them. -/
def isGrouped (isDigit : Char → Bool) (s : List Char) : Bool :=
  (splitAt '_' s).all fun group => !group.isEmpty && group.all isDigit

/-- The text is a whole number in decimal. Only zero begins with a zero. -/
def isWhole (s : List Char) : Bool :=
  s = ['0'] || s.head? ≠ some '0' && isGrouped Char.isDigit s

/-- The text is a number in decimal, with a point or without one. -/
def isMantissa (s : List Char) : Bool :=
  let whole := s.takeWhile (· ≠ '.')
  match s.dropWhile (· ≠ '.') with
  | [] => isWhole whole
  | _ :: [] => isWhole whole
  | _ :: fraction => (whole.isEmpty || isWhole whole) && isGrouped Char.isDigit fraction

/-- The letter begins an exponent. -/
def isExponentLetter (c : Char) : Bool := c = 'e' || c = 'E'

/-- The text is a number in decimal, with an exponent or without one. -/
def isDecimal (s : List Char) : Bool :=
  isMantissa (s.takeWhile fun c => !isExponentLetter c) &&
    match s.dropWhile fun c => !isExponentLetter c with
    | [] => true
    | _ :: '-' :: digits => isGrouped Char.isDigit digits
    | _ :: digits => isGrouped Char.isDigit (dropPlus digits)

/-- The character is a digit in the base that the letter stands for. -/
def isDigitIn (base c : Char) : Bool :=
  match base.toLower with
  | 'x' => (hexDigit? c).isSome
  | 'o' => '0' ≤ c && c ≤ '7'
  | 'b' => c = '0' || c = '1'
  | _ => false

/-- The text is a whole number in another base. -/
def isBased : List Char → Bool
  | '0' :: base :: digits => isGrouped (isDigitIn base) digits
  | _ => false

/-- The text is a numeral. An `n` behind a whole number makes it a big one. -/
def isNumeral (s : List Char) : Bool :=
  isDecimal s || isBased s || s.getLast? = some 'n' && (isWhole s.dropLast || isBased s.dropLast)

/-- A numeral begins with the character. -/
def beginsNumeral (c : Char) : Bool := c.isDigit || c = '.'

/-- Doubles hold the whole numbers below it. -/
def exactLimit : Nat := Nat.pow 2 53

/-- The text is the numeral of a whole number that a double holds. -/
def isExact (s : List Char) : Bool :=
  Text.isNumeral s && ofNat (decimalValue s) = s && decimalValue s < exactLimit

section Digits

variable {s : List Char}

theorem splitAt_of_notMem {separator : Char} (h : separator ∉ s) : splitAt separator s = [s] := by
  induction s with
  | nil => rfl
  | cons c s ih =>
    rw [List.mem_cons, not_or] at h
    rw [splitAt, if_neg (Ne.symm h.1), ih h.2]

variable (hne : s ≠ []) (hdigits : ∀ c ∈ s, c.isDigit = true)

include hne hdigits

theorem isGrouped_of_isDigit : isGrouped Char.isDigit s = true := by
  have hmark : '_' ∉ s := fun hc => ne_of_isDigit (hdigits '_' hc) (by decide) rfl
  rw [isGrouped, splitAt_of_notMem hmark]
  simpa [hne] using hdigits

/-- A whole number is a numeral without a point and without an exponent. -/
theorem isNumeral_of_isDigit (leading : s = ['0'] ∨ s.head? ≠ some '0') : isNumeral s = true := by
  have hwhole : isWhole s = true := by
    rw [isWhole, isGrouped_of_isDigit hne hdigits]
    simpa using leading
  have hpoint : ∀ c ∈ s, decide (c ≠ '.') = true :=
    fun c hc => decide_eq_true (ne_of_isDigit (hdigits c hc) (by decide))
  have hexponent : ∀ c ∈ s, (!isExponentLetter c) = true := by
    intro c hc
    have hsmall : c ≠ 'e' := ne_of_isDigit (hdigits c hc) (by decide)
    have hcapital : c ≠ 'E' := ne_of_isDigit (hdigits c hc) (by decide)
    simp [isExponentLetter, hsmall, hcapital]
  have hmantissa : isMantissa s = true := by
    rw [isMantissa, List.takeWhile_eq_self_iff.mpr hpoint, List.dropWhile_eq_nil_iff.mpr hpoint]
    exact hwhole
  have hdecimal : isDecimal s = true := by
    rw [isDecimal, List.takeWhile_eq_self_iff.mpr hexponent,
      List.dropWhile_eq_nil_iff.mpr hexponent, hmantissa]
    rfl
  rw [isNumeral, hdecimal, Bool.true_or, Bool.true_or]

end Digits

theorem isNumeral_ofNat (n : Nat) : isNumeral (ofNat n) = true := by
  refine isNumeral_of_isDigit (ofNat_ne_nil n) (fun c hc => isDigit_of_mem_ofNat hc) ?_
  rcases Nat.eq_zero_or_pos n with rfl | hpos
  · exact .inl rfl
  · obtain ⟨c, r, hfirst, -, hc⟩ := exists_first_digit n hpos
    exact .inr (by simpa [hfirst] using hc)

theorem isExact_ofNat {n : Nat} (h : n < exactLimit) : isExact (ofNat n) = true := by
  have hdigits : Text.isNumeral (ofNat n) = true := by
    simpa [Text.isNumeral, ofNat_ne_nil] using fun c hc => isDigit_of_mem_ofNat (n := n) hc
  rw [isExact, hdigits, decimalValue_ofNat]
  simpa using h

/-- Characters that stand in no key but between quotes. -/
def excluded : List Char := [':', '\'', '"', '\\', '\n', '\r']

/-! ## Dialects -/

/-- What the versions of the language differ in, or leave to others. -/
structure Dialect where
  /-- The character beyond ASCII can begin an identifier. -/
  isStartBeyondAscii : Char → Bool
  /-- The character beyond ASCII can go on an identifier. -/
  isPartBeyondAscii : Char → Bool
  /-- The number of a numeral as it is written, where it is not written as the numeral is. -/
  numberText : List Char → List Char

namespace Dialect

variable (d : Dialect)

/-- The character can begin an identifier. -/
def isStart (c : Char) : Bool := if c.toNat < 128 then isWordStart c else d.isStartBeyondAscii c

/-- The character can go on an identifier. -/
def isPart (c : Char) : Bool := if c.toNat < 128 then isWordPart c else d.isPartBeyondAscii c

/-- The character can stand in a numeral, or would lengthen one to something that is none. -/
def isNumeralPart (c : Char) : Bool := d.isPart c || c = '.' || c = '+' || c = '-'

/-- The name that a numeral denotes. -/
def numeralName (s : List Char) : List Char := if isExact s then s else d.numberText s

/-- The name of the numeral in front of a text, and what follows it. -/
def readNumeral? (s : List Char) : Option (List Char × List Char) :=
  let numeral := s.takeWhile d.isNumeralPart
  if isNumeral numeral then some (d.numeralName numeral, s.dropWhile d.isNumeralPart) else none

end Dialect

/-! ## Identifiers -/

/-- The character that an escape in an identifier spells after its backslash, and what follows. -/
def readEscapedChar? : List Char → Option (Char × List Char)
  | 'u' :: r =>
    (readCodePoint? r).bind fun (code, rest) =>
      if code.isValidChar then some (Char.ofNat code, rest) else none
  | _ => none

/-- The character of an identifier in front of a text, spelled by an escape or not, and what follows
it. -/
def readChar? (p : Char → Bool) : List Char → Option (Char × List Char)
  | [] => none
  | c :: r =>
    if c = '\\' then (readEscapedChar? r).filter (p ·.1) else if p c then some (c, r) else none

theorem length_readEscapedChar? {s rest : List Char} {c : Char}
    (h : readEscapedChar? s = some (c, rest)) : rest.length < s.length := by
  unfold readEscapedChar? at h
  split at h
  · obtain ⟨⟨code, r⟩, hcode, hchar⟩ := Option.bind_eq_some_iff.mp h
    have hlt := length_readCodePoint? hcode
    dsimp only at hchar
    split at hchar
    · obtain ⟨-, rfl⟩ := Prod.mk.inj (Option.some.inj hchar)
      simp only [List.length_cons]
      omega
    · contradiction
  · contradiction

section Char

variable {p : Char → Bool} {s rest : List Char} {c e : Char}

/-- An escape is longer than its character. -/
theorem length_readChar?_escape (h : readChar? p ('\\' :: s) = some (e, rest)) :
    rest.length < s.length := by
  rw [readChar?, if_pos rfl] at h
  exact length_readEscapedChar? (Option.filter_eq_some_iff.mp h).1

theorem readChar?_cons (hslash : c ≠ '\\') :
    readChar? p (c :: s) = if p c then some (c, s) else none := by
  rw [readChar?, if_neg hslash]

theorem length_readChar? (h : readChar? p s = some (e, rest)) : rest.length < s.length := by
  cases s with
  | nil => contradiction
  | cons c s =>
    by_cases hslash : c = '\\'
    · rw [hslash] at h
      exact Nat.lt_succ_of_lt (length_readChar?_escape h)
    · rw [readChar?_cons hslash] at h
      split at h
      · obtain ⟨-, rfl⟩ := Prod.mk.inj (Option.some.inj h)
        simp
      · contradiction

end Char

namespace Dialect

variable (d : Dialect)

/-- The rest of an identifier in front of a text, and what follows it. -/
def readParts (s : List Char) : List Char × List Char :=
  match _h : readChar? d.isPart s with
  | some (c, rest) => (c :: (readParts rest).1, (readParts rest).2)
  | none => ([], s)
termination_by s.length
decreasing_by all_goals exact length_readChar? _h

/-- A character in front of a text and the rest of an identifier behind it, and what follows. -/
def readFrom? (p : Char → Bool) (s : List Char) : Option (List Char × List Char) :=
  (readChar? p s).map fun (c, rest) => (c :: (d.readParts rest).1, (d.readParts rest).2)

/-- The identifier in front of a text, and what follows it. -/
def readIdentifier? (s : List Char) : Option (List Char × List Char) := d.readFrom? d.isStart s

/-! ## Keys -/

/-- The name that the key in front of a text denotes, and what follows the key. -/
def readKey? : List Char → Option (List Char × List Char)
  | [] => none
  | c :: r =>
    if c = '\'' || c = '"' then readLiteral? c r
    else if beginsNumeral c then d.readNumeral? (c :: r)
    else d.readIdentifier? (c :: r)

/-- The name is a key, and denotes itself. -/
def isKey : List Char → Bool
  | [] => false
  | c :: r =>
    if beginsNumeral c then d.readNumeral? (c :: r) = some (c :: r, [])
    else d.isStart c && r.all d.isPart

theorem isStart_of_ascii {c : Char} (h : c.toNat < 128) : d.isStart c = isWordStart c := if_pos h

theorem isPart_of_ascii {c : Char} (h : c.toNat < 128) : d.isPart c = isWordPart c := if_pos h

section Excluded

variable {d} {c : Char} (h : c ∈ excluded)

include h

theorem ascii_of_excluded : c.toNat < 128 := by
  have hascii : excluded.all (fun c => c.toNat < 128) = true := by decide
  exact of_decide_eq_true (List.all_eq_true.mp hascii c h)

theorem isStart_excluded : d.isStart c = false := by
  have hword : excluded.all (fun c => !isWordStart c) = true := by decide
  rw [d.isStart_of_ascii (ascii_of_excluded h)]
  simpa using List.all_eq_true.mp hword c h

theorem isPart_excluded : d.isPart c = false := by
  have hword : excluded.all (fun c => !isWordPart c) = true := by decide
  rw [d.isPart_of_ascii (ascii_of_excluded h)]
  simpa using List.all_eq_true.mp hword c h

theorem isNumeralPart_excluded : d.isNumeralPart c = false := by
  have hsign : excluded.all (fun c => !(c = '.' || c = '+' || c = '-')) = true := by decide
  rw [isNumeralPart, isPart_excluded h]
  simpa using List.all_eq_true.mp hsign c h

end Excluded

/-! ### Identifiers -/

theorem readParts_eq (s : List Char) :
    d.readParts s = (d.readFrom? d.isPart s).getD ([], s) := by
  rw [readParts, readFrom?]
  split
  · rename_i heq
    rw [heq]
    rfl
  · rename_i heq
    rw [heq]
    rfl

/-- The rest of an identifier is at least as long as its characters. -/
theorem length_readParts (s : List Char) :
    (d.readParts s).1.length + (d.readParts s).2.length ≤ s.length := by
  fun_induction readParts d s with
  | case1 s c rest hchar ih =>
    have hlt := length_readChar? hchar
    simp only [List.length_cons]
    omega
  | case2 s => simp

/-- The first character stands for itself, since an escape is longer than its character. -/
theorem readFrom?_cons_iff {p : Char → Bool} (hp : p '\\' = false) {c : Char}
    {name rest after : List Char} (hlength : rest.length = name.length + after.length) :
    d.readFrom? p (c :: rest) = some (c :: name, after) ↔
      p c = true ∧ d.readParts rest = (name, after) := by
  unfold readFrom?
  by_cases hslash : c = '\\'
  · subst hslash
    refine iff_of_false ?_ (by simp [hp])
    intro h
    obtain ⟨⟨e, behind⟩, hchar, heq⟩ := Option.map_eq_some_iff.mp h
    obtain ⟨hname, hrest⟩ := Prod.mk.inj heq
    obtain ⟨-, rfl⟩ := List.cons.inj hname
    have hlt := length_readChar?_escape hchar
    have hle := d.length_readParts behind
    rw [← hrest] at hlength
    omega
  · rw [readChar?_cons hslash]
    cases hc : p c <;> simp [Prod.ext_iff]

theorem readParts_iff (name t : List Char) :
    d.readParts (name ++ ':' :: t) = (name, ':' :: t) ↔ name.all d.isPart = true := by
  induction name with
  | nil =>
    have hcolon : d.readFrom? d.isPart (':' :: t) = none := by
      rw [readFrom?, readChar?_cons (by decide), isPart_excluded (by decide)]
      rfl
    rw [List.nil_append, readParts_eq, hcolon]
    simp
  | cons c name ih =>
    have hfrom : d.readParts (c :: (name ++ ':' :: t)) = (c :: name, ':' :: t) ↔
        d.readFrom? d.isPart (c :: (name ++ ':' :: t)) = some (c :: name, ':' :: t) := by
      rw [readParts_eq]
      cases d.readFrom? d.isPart (c :: (name ++ ':' :: t)) <;> simp
    rw [List.cons_append, hfrom, d.readFrom?_cons_iff (isPart_excluded (by decide)) (by simp), ih,
      List.all_cons, Bool.and_eq_true]

theorem readIdentifier?_iff (c : Char) (name t : List Char) :
    d.readIdentifier? (c :: (name ++ ':' :: t)) = some (c :: name, ':' :: t) ↔
      (d.isStart c && name.all d.isPart) = true := by
  rw [readIdentifier?, d.readFrom?_cons_iff (isStart_excluded (by decide)) (by simp),
    d.readParts_iff, Bool.and_eq_true]

/-! ### Numerals -/

/-- What stands behind the colon is nothing to the numeral. -/
theorem readNumeral?_colon (s t : List Char) :
    d.readNumeral? (s ++ ':' :: t) =
      (d.readNumeral? s).map fun (name, rest) => (name, rest ++ ':' :: t) := by
  have hends : ∀ c ∈ (':' :: t).head?, d.isNumeralPart c = false := by
    intro c hc
    obtain rfl := Option.some.inj hc
    exact isNumeralPart_excluded (by decide)
  unfold readNumeral?
  rw [takeWhile_append_closing hends, dropWhile_append_closing hends]
  dsimp only
  split <;> rfl

theorem all_isNumeralPart {s name : List Char} (h : d.readNumeral? s = some (name, [])) :
    ∀ c ∈ s, d.isNumeralPart c = true := by
  unfold readNumeral? at h
  dsimp only at h
  split at h
  · obtain ⟨-, hdrop⟩ := Prod.mk.inj (Option.some.inj h)
    exact List.dropWhile_eq_nil_iff.mp hdrop
  · contradiction

/-! ### The law of keys -/

/-- A name before a colon is read as itself just if it is a key that denotes itself. -/
theorem readKey?_iff (name t : List Char) :
    d.readKey? (name ++ ':' :: t) = some (name, ':' :: t) ↔ d.isKey name = true := by
  cases name with
  | nil =>
    have hcolon : d.readKey? (':' :: t) ≠ some ([], ':' :: t) := by
      intro h
      rw [readKey?, if_neg (by decide), if_neg (by decide), readIdentifier?, readFrom?] at h
      obtain ⟨_, -, heq⟩ := Option.map_eq_some_iff.mp h
      exact List.cons_ne_nil _ _ (Prod.mk.inj heq).1
    simp [hcolon, isKey]
  | cons c name =>
    rw [List.cons_append, readKey?, isKey]
    by_cases hquote : (c = '\'' || c = '"') = true
    · have hread : readLiteral? c (name ++ ':' :: t) ≠ some (c :: name, ':' :: t) := by
        intro h
        have hlt := length_readLiteral? h
        simp only [List.length_cons, List.length_append] at hlt
        omega
      have hkey : beginsNumeral c = false ∧ d.isStart c = false := by
        rw [Bool.or_eq_true, decide_eq_true_eq, decide_eq_true_eq] at hquote
        rcases hquote with rfl | rfl <;> exact ⟨by decide, isStart_excluded (by decide)⟩
      rw [if_pos hquote]
      simp [hread, hkey]
    rw [if_neg hquote]
    by_cases hnumeral : beginsNumeral c = true
    · rw [if_pos hnumeral, if_pos hnumeral, ← List.cons_append, d.readNumeral?_colon,
        decide_eq_true_eq]
      cases d.readNumeral? (c :: name) <;> simp [Prod.ext_iff]
    · rw [if_neg hnumeral, if_neg hnumeral]
      exact d.readIdentifier?_iff c name t

/-! ### Keys of both kinds -/

theorem not_excluded_of_isKey {name : List Char} (h : d.isKey name = true) :
    ∀ c ∈ name, c ∉ excluded := by
  cases name with
  | nil => simp
  | cons c r =>
    rw [isKey] at h
    split at h
    · intro e he hexcluded
      have hpart := d.all_isNumeralPart (of_decide_eq_true h) e he
      rw [isNumeralPart_excluded hexcluded] at hpart
      contradiction
    · rw [Bool.and_eq_true, List.all_eq_true] at h
      rw [List.forall_mem_cons]
      constructor
      · intro hexcluded
        rw [isStart_excluded hexcluded] at h
        exact absurd h.1 (by decide)
      · intro e he hexcluded
        have hpart := h.2 e he
        rw [isPart_excluded hexcluded] at hpart
        contradiction

/-- A key can stand between single quotes, too. -/
theorem isQuotable_of_isKey {name : List Char} (h : d.isKey name = true) :
    isQuotable name = true := by
  rw [isQuotable, List.all_eq_true]
  intro c hc
  have hexcluded := d.not_excluded_of_isKey h c hc
  simp only [excluded, List.mem_cons, List.not_mem_nil, or_false, not_or] at hexcluded
  simp [hexcluded]

/-! ### Whole numbers -/

theorem isNumeralPart_of_isDigit {c : Char} (h : c.isDigit = true) : d.isNumeralPart c = true := by
  have hascii : c.toNat < 128 := by
    have hle := (Char.isDigit_iff_toNat.mp h).2
    have hnine : '9'.toNat < 128 := by decide
    omega
  rw [isNumeralPart, d.isPart_of_ascii hascii, isWordPart, h]
  simp

/-- The digits of a whole number are a key, if a double holds the number. -/
theorem isKey_ofNat {n : Nat} (h : n < exactLimit) : d.isKey (ofNat n) = true := by
  have hdigits : ∀ c ∈ ofNat n, c.isDigit = true := fun c hc => isDigit_of_mem_ofNat hc
  have hpart : ∀ c ∈ ofNat n, d.isNumeralPart c = true :=
    fun c hc => d.isNumeralPart_of_isDigit (hdigits c hc)
  have hread : d.readNumeral? (ofNat n) = some (ofNat n, []) := by
    unfold readNumeral?
    rw [List.takeWhile_eq_self_iff.mpr hpart, List.dropWhile_eq_nil_iff.mpr hpart]
    simp [isNumeral_ofNat, numeralName, isExact_ofNat h]
  cases hn : ofNat n with
  | nil => exact absurd hn (ofNat_ne_nil n)
  | cons c r =>
    have hc : beginsNumeral c = true := by
      rw [beginsNumeral, hdigits c (hn ▸ List.mem_cons_self), Bool.true_or]
    rw [isKey, if_pos hc, ← hn, hread, decide_eq_true rfl]

end Dialect

end WideColumn.Script
