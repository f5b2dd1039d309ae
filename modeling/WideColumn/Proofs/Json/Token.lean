import WideColumn.Proofs.Json.Grammar
import WideColumn.Proofs.Text.Run

/-!
# Cutting a JSON document

What the grammar takes for a string, a numeral or a word is cut as one token, whatever stands behind
it: a string ends at its quote, and a numeral or a word where a character comes that does not go on
it. In a document that is a space, a comma or a bracket.

`Cuts` says that characters become certain tokens in front of a given text, and `CutsInto` that they
do in front of every text that ends a token. Both are put together as documents are: space around a
value, brackets around a list and a comma between its items.

Main definitions: `EndsToken`, `Cuts`, `CutsInto`.
Main results: `tokens?_string`, `tokens?_number`, `tokens?_word`, `CutsInto.enclosed`,
`CutsInto.comma`.
-/

namespace WideColumn.Json

open Text

/-! ## Strings -/

/-- Adds several pieces in front of those that were read. -/
def appendPieces (ps : List Piece) :
    Option (List Piece × List Char) → Option (List Piece × List Char) :=
  Option.map fun (pieces, rest) => (ps ++ pieces, rest)

theorem appendPieces_append (ps qs : List Piece) (read : Option (List Piece × List Char)) :
    appendPieces (ps ++ qs) read = appendPieces ps (appendPieces qs read) := by
  cases read <;> simp [appendPieces]

theorem hexDigit?_of_isHexDigit {value : Nat} {c : Char} (h : IsHexDigit value c) :
    hexDigit? c = some value := by
  have hall : ∀ v < 16,
      hexDigit? v.digitChar = some v ∧ hexDigit? v.digitChar.toUpper = some v := by decide
  obtain ⟨hlt, rfl | rfl⟩ := h
  · exact (hall value hlt).1
  · exact (hall value hlt).2

/-- An escape of a code unit is scanned as that unit. -/
theorem scanString?_unit {s : List Char} {code : Nat} (h : IsUnit s code) (r : List Char) :
    scanString? (s ++ r) = appendPieces [.unit code] (scanString? r) := by
  cases h with
  | @digits x y z w a b c d ha hb hc hd =>
    have hcode : hexUnit? a b c d = some (((x * 16 + y) * 16 + z) * 16 + w) := by
      simp [hexUnit?, hexDigit?_of_isHexDigit ha, hexDigit?_of_isHexDigit hb,
        hexDigit?_of_isHexDigit hc, hexDigit?_of_isHexDigit hd]
    show scanString? ('\\' :: 'u' :: a :: b :: c :: d :: r) = _
    rw [scanString?, hcode]
    rfl

theorem scanString?_escape {e c : Char} (h : (e, c) ∈ escapes) (r : List Char) :
    scanString? ('\\' :: e :: r) = appendPieces [.char c] (scanString? r) := by
  simp only [escapes, List.mem_cons, Prod.mk.injEq, List.not_mem_nil, or_false] at h
  rcases h with ⟨rfl, rfl⟩ | ⟨rfl, rfl⟩ | ⟨rfl, rfl⟩ | ⟨rfl, rfl⟩ | ⟨rfl, rfl⟩ | ⟨rfl, rfl⟩ |
    ⟨rfl, rfl⟩ | ⟨rfl, rfl⟩ <;> rfl

theorem scanString?_plain {c : Char} (hspace : 0x20 ≤ c.toNat) (hquote : c ≠ '"')
    (hslash : c ≠ '\\') (r : List Char) :
    scanString? (c :: r) = appendPieces [.char c] (scanString? r) := by
  have hlegal : ¬ (decide (c.toNat < 0x20) || decide (c = '\\')) = true := by
    rw [Bool.or_eq_true, decide_eq_true_eq, decide_eq_true_eq, not_or, Nat.not_lt]
    exact ⟨hspace, hslash⟩
  rw [scanString?.eq_5 c r hquote (fun _ _ _ _ _ h => absurd h hslash)
    (fun _ _ h => absurd h hslash), if_neg hlegal]
  rfl

theorem decodePieces_unit {code : Nat} (hhigh : isHighSurrogate code = false)
    (hlow : isLowSurrogate code = false) (ps : List Piece) :
    decodePieces (.unit code :: ps) = (decodePieces ps).map (Char.ofNat code :: ·) := by
  cases ps with
  | nil => simp [decodePieces, hhigh, hlow]
  | cons p ps =>
    cases p with
    | char c => simp [decodePieces, hhigh, hlow]
    | unit low => simp [decodePieces, hhigh, hlow]

theorem decodePieces_pair {high low : Nat} (hhigh : isHighSurrogate high = true)
    (hlow : isLowSurrogate low = true) (ps : List Piece) :
    decodePieces (.unit high :: .unit low :: ps) = (decodePieces ps).map
      (Char.ofNat (0x10000 + (high - 0xD800) * 0x400 + (low - 0xDC00)) :: ·) := by
  simp [decodePieces, hhigh, hlow]

/-- No code point of a character is half of a surrogate pair. -/
theorem not_isSurrogate (c : Char) :
    isHighSurrogate c.toNat = false ∧ isLowSurrogate c.toNat = false := by
  have hvalid : c.toNat < 0xD800 ∨ 0xDFFF < c.toNat ∧ c.toNat < 0x110000 := c.valid
  simp only [isHighSurrogate, isLowSurrogate, Bool.and_eq_false_iff, decide_eq_false_iff_not]
  omega

/-- What a character is spelled by is scanned as pieces that decode to the character, whatever
pieces follow them. -/
theorem exists_pieces {s : List Char} {c : Char} (h : SpellsChar s c) :
    ∃ ps, (∀ r, scanString? (s ++ r) = appendPieces ps (scanString? r)) ∧
      ∀ qs, decodePieces (ps ++ qs) = (decodePieces qs).map (c :: ·) := by
  cases h with
  | plain hspace hquote hslash =>
    exact ⟨[.char c], scanString?_plain hspace hquote hslash, fun _ => rfl⟩
  | @escape e c he => exact ⟨[.char c], scanString?_escape he, fun _ => rfl⟩
  | unit hs =>
    refine ⟨[.unit c.toNat], scanString?_unit hs, fun qs => ?_⟩
    rw [List.singleton_append, decodePieces_unit (not_isSurrogate c).1 (not_isSurrogate c).2,
      Char.ofNat_toNat]
  | @pair s t high low c hs ht hlo hhi hlo' hhi' hc =>
    refine ⟨[.unit high] ++ [.unit low], fun r => ?_, fun qs => ?_⟩
    · rw [List.append_assoc, scanString?_unit hs, scanString?_unit ht, appendPieces_append]
    · have hhigh : isHighSurrogate high = true := by simp [isHighSurrogate, hlo, hhi]
      have hlow : isLowSurrogate low = true := by simp [isLowSurrogate, hlo', hhi']
      rw [List.append_assoc, List.singleton_append, List.singleton_append,
        decodePieces_pair hhigh hlow, ← hc, Char.ofNat_toNat]

/-- A string is read up to its closing quote, as the text that it spells. -/
theorem exists_scanString? {s text : List Char} (h : SpellsText s text) (r : List Char) :
    ∃ ps, scanString? (s ++ '"' :: r) = some (ps, r) ∧ decodePieces ps = some text := by
  induction h with
  | nil => exact ⟨[], rfl, rfl⟩
  | @cons s rest c text hc _ ih =>
    obtain ⟨ps, hscan, hdecode⟩ := exists_pieces hc
    obtain ⟨qs, hrest, htext⟩ := ih
    refine ⟨ps ++ qs, ?_, ?_⟩
    · rw [List.append_assoc, hscan, hrest]
      rfl
    · rw [hdecode, htext]
      rfl

/-! ## Numerals -/

theorem isNumeral_of_isDigits {s : List Char} (h : IsDigits s) : isNumeral s = true := by
  simpa [isNumeral, h.1] using h.2

namespace Numeral

theorem isWhole_of_isDigits {s : List Char} (h : IsDigits s)
    (leading : s = ['0'] ∨ s.head? ≠ some '0') : isWhole s = true := by
  obtain ⟨c, r, rfl⟩ := List.exists_cons_of_ne_nil h.1
  rcases leading with hzero | hne
  · rw [hzero]
    rfl
  · have hc : c ≠ '0' := fun hc => hne (by rw [hc]; rfl)
    have hdigits := List.forall_mem_cons.mp h.2
    rw [isWhole.eq_2 _ _ fun heq => absurd heq hc]
    simpa [hdigits.1, hc] using hdigits.2

/-- An exponent does not go on the digits in front of it. -/
theorem head?_exponent {s : List Char} {e : Option Exponent} (h : SpellsExponent s e) :
    ∀ c ∈ s.head?, c.isDigit = false ∧ c ≠ '.' := by
  intro c hc
  cases h with
  | none => contradiction
  | unsigned he | positive he | negative he =>
    obtain rfl := Option.some.inj hc
    rcases he with rfl | rfl <;> decide

theorem readExponent?_of_spells {s : List Char} {e : Option Exponent} (h : SpellsExponent s e)
    (proper : ∀ x ∈ e, IsDigits x.digits) : readExponent? s = some e := by
  cases h with
  | none => rfl
  | @unsigned e digits he =>
    have hdigits : IsDigits digits := by simpa using proper
    obtain ⟨c, r, rfl⟩ := List.exists_cons_of_ne_nil hdigits.1
    have hc := (List.forall_mem_cons.mp hdigits.2).1
    have hminus : c ≠ '-' := ne_of_isDigit hc (by decide)
    have hplus : c ≠ '+' := ne_of_isDigit hc (by decide)
    simp [readExponent?, he, isNumeral_of_isDigits hdigits, hminus, hplus]
  | positive he =>
    have hdigits := isNumeral_of_isDigits (by simpa using proper)
    simp [readExponent?, he, hdigits]
  | negative he =>
    have hdigits := isNumeral_of_isDigits (by simpa using proper)
    simp [readExponent?, he, hdigits]

theorem readUnsigned?_of_proper {n : Numeral} (h : n.IsProper) {exponent : List Char}
    (hexponent : SpellsExponent exponent n.exponent) :
    readUnsigned? n.isNegative (n.whole ++ (fractionText n.fraction ++ exponent)) = some n := by
  have hend : ∀ c ∈ (fractionText n.fraction ++ exponent).head?, c.isDigit = false := by
    intro c hc
    cases hfraction : n.fraction with
    | none =>
      rw [hfraction] at hc
      exact (head?_exponent hexponent c hc).1
    | some digits =>
      rw [hfraction] at hc
      obtain rfl := Option.some.inj hc
      decide
  unfold readUnsigned?
  rw [takeWhile_run h.whole.2 hend, dropWhile_run h.whole.2 hend]
  dsimp only
  rw [isWhole_of_isDigits h.whole h.leading]
  obtain ⟨isNegative, whole, fraction, e⟩ := n
  cases fraction with
  | none =>
    have hnopoint : ∀ r, exponent ≠ '.' :: r := by
      rintro r rfl
      exact (head?_exponent hexponent '.' rfl).2 rfl
    simp only [fractionText, List.nil_append, Bool.not_true, Bool.false_eq_true, if_false]
    rw [readExponent?_of_spells hexponent h.exponent]
    rfl
  | some digits =>
    have hdigits : IsDigits digits := h.fraction digits rfl
    have hends := fun c hc => (head?_exponent hexponent c hc).1
    simp [fractionText, takeWhile_run hdigits.2 hends, dropWhile_run hdigits.2 hends, hdigits.1,
      readExponent?_of_spells hexponent h.exponent]

/-- A numeral is read as what it is. -/
theorem read?_of_spells {s : List Char} {n : Numeral} (h : Spells s n) : read? s = some n := by
  cases h with
  | @numeral n exponent proper hexponent =>
    have hread := readUnsigned?_of_proper proper hexponent
    cases hsign : n.isNegative with
    | true =>
      rw [hsign] at hread
      exact hread
    | false =>
      rw [hsign] at hread
      obtain ⟨c, r, hwhole⟩ := List.exists_cons_of_ne_nil proper.whole.1
      have hc : c ≠ '-' := by
        have hdigit := proper.whole.2 c (hwhole ▸ List.mem_cons_self)
        exact ne_of_isDigit hdigit (by decide)
      rw [signText, if_neg Bool.false_ne_true, List.nil_append, ← hread, hwhole]
      exact read?.eq_2 _ fun r h => hc (List.cons.inj h).1

theorem isNumeralChar_of_isDigit {c : Char} (h : c.isDigit = true) : isNumeralChar c = true := by
  simp [isNumeralChar, h]

theorem isNumeralChar_of_isDigits {s : List Char} (h : IsDigits s) :
    ∀ c ∈ s, isNumeralChar c = true :=
  fun c hc => isNumeralChar_of_isDigit (h.2 c hc)

theorem isNumeralChar_of_exponent {s : List Char} {e : Option Exponent} (h : SpellsExponent s e)
    (proper : ∀ x ∈ e, IsDigits x.digits) : ∀ c ∈ s, isNumeralChar c = true := by
  have hletter : ∀ {e : Char}, e = 'e' ∨ e = 'E' → isNumeralChar e = true := by
    rintro e (rfl | rfl) <;> rfl
  cases h with
  | none => simp
  | unsigned he =>
    have hdigits := isNumeralChar_of_isDigits (by simpa using proper)
    exact List.forall_mem_cons.mpr ⟨hletter he, hdigits⟩
  | positive he | negative he =>
    have hdigits := isNumeralChar_of_isDigits (by simpa using proper)
    exact List.forall_mem_cons.mpr ⟨hletter he, List.forall_mem_cons.mpr ⟨rfl, hdigits⟩⟩

/-- The characters of a numeral are those that the cut takes for one. -/
theorem isNumeralChar_of_spells {s : List Char} {n : Numeral} (h : Spells s n) :
    ∀ c ∈ s, isNumeralChar c = true := by
  cases h with
  | @numeral n exponent proper hexponent =>
    have hsign : ∀ c ∈ signText n.isNegative, isNumeralChar c = true := by
      cases n.isNegative <;> simp [signText, isNumeralChar]
    have hfraction : ∀ c ∈ fractionText n.fraction, isNumeralChar c = true := by
      cases hpoint : n.fraction with
      | none => simp [fractionText]
      | some digits =>
        have hdigits := isNumeralChar_of_isDigits (proper.fraction digits hpoint)
        exact List.forall_mem_cons.mpr ⟨rfl, hdigits⟩
    rw [List.forall_mem_append, List.forall_mem_append, List.forall_mem_append]
    exact ⟨hsign, isNumeralChar_of_isDigits proper.whole, hfraction,
      isNumeralChar_of_exponent hexponent proper.exponent⟩

theorem exists_start_of_spells {s : List Char} {n : Numeral} (h : Spells s n) :
    ∃ c r, s = c :: r ∧ isNumeralStart c = true := by
  cases h with
  | @numeral n exponent proper hexponent =>
    cases n.isNegative with
    | true => exact ⟨'-', _, rfl, rfl⟩
    | false =>
      obtain ⟨c, r, hwhole⟩ := List.exists_cons_of_ne_nil proper.whole.1
      refine ⟨c, r ++ (fractionText n.fraction ++ exponent), by rw [hwhole]; rfl, ?_⟩
      have hdigit := proper.whole.2 c (hwhole ▸ List.mem_cons_self)
      simp [isNumeralStart, hdigit]

end Numeral

/-! ## Tokens -/

theorem tokens?_space {c : Char} (h : isSpace c = true) (s : List Char) :
    tokens? (c :: s) = tokens? s := by
  rw [tokens?, if_pos h]

theorem tokens?_punctuation {c : Char} {token : Token} (h : punctuation? c = some token)
    (hspace : isSpace c = false) (s : List Char) :
    tokens? (c :: s) = (tokens? s).map (token :: ·) := by
  rw [tokens?, if_neg (by simp [hspace]), h]

theorem tokens?_string {s text : List Char} (h : SpellsText s text) (rest : List Char) :
    tokens? ('"' :: (s ++ '"' :: rest)) =
      (tokens? rest).map (.string (some (String.ofList text)) :: ·) := by
  obtain ⟨pieces, hscan, hdecode⟩ := exists_scanString? h rest
  have hnone : punctuation? '"' = none := rfl
  rw [tokens?, if_neg (by decide), hnone]
  dsimp only
  rw [if_pos rfl]
  split
  · rename_i heq
    obtain ⟨rfl, rfl⟩ := Prod.mk.inj (Option.some.inj (hscan.symm.trans heq))
    rw [hdecode]
    rfl
  · rename_i heq
    exact absurd (hscan.symm.trans heq) (Option.some_ne_none _)

/-- What begins a numeral or a word is no space, no mark and no quote. -/
theorem not_mark_of_start {c : Char} (h : (isNumeralStart c || c.isAlpha) = true) :
    isSpace c = false ∧ punctuation? c = none ∧ c ≠ '"' := by
  have hne : ∀ d, (isNumeralStart d || d.isAlpha) = false → c ≠ d := by
    rintro d hd rfl
    exact absurd (h.symm.trans hd) (by decide)
  refine ⟨?_, ?_, hne _ rfl⟩
  · simp [isSpace, hne ' ' rfl, hne '\t' rfl, hne '\n' rfl, hne '\r' rfl]
  · unfold punctuation?
    split
    · exact absurd rfl (hne '[' rfl)
    · exact absurd rfl (hne ']' rfl)
    · exact absurd rfl (hne '{' rfl)
    · exact absurd rfl (hne '}' rfl)
    · exact absurd rfl (hne ':' rfl)
    · exact absurd rfl (hne ',' rfl)
    · rfl

/-- A numeral or a word ends where this text begins. -/
def EndsToken (rest : List Char) : Prop :=
  ∀ c ∈ rest.head?, isNumeralChar c = false ∧ c.isAlpha = false

theorem tokens?_number {s : List Char} {n : Numeral} (h : Numeral.Spells s n) {rest : List Char}
    (hrest : EndsToken rest) :
    tokens? (s ++ rest) = (tokens? rest).map (.number n :: ·) := by
  have hchars := Numeral.isNumeralChar_of_spells h
  have hends := fun c hc => (hrest c hc).1
  have htake := takeWhile_run hchars hends
  have hdrop := dropWhile_run hchars hends
  have hread := Numeral.read?_of_spells h
  obtain ⟨c, r, rfl, hstart⟩ := Numeral.exists_start_of_spells h
  obtain ⟨hspace, hmark, hquote⟩ := not_mark_of_start (c := c) (by simp [hstart])
  rw [List.cons_append] at htake hdrop ⊢
  rw [tokens?, if_neg (by simp [hspace]), hmark]
  dsimp only
  rw [if_neg hquote, dif_pos hstart, htake, hdrop, hread]

theorem tokens?_word {s : List Char} {token : Token} (hword : word? s = some token)
    (hall : (s.all fun c => c.isAlpha && !isNumeralStart c) = true) {rest : List Char}
    (hrest : EndsToken rest) :
    tokens? (s ++ rest) = (tokens? rest).map (token :: ·) := by
  have hletters : ∀ c ∈ s, c.isAlpha = true ∧ isNumeralStart c = false := by simpa using hall
  have hends := fun c hc => (hrest c hc).2
  have htake := takeWhile_run (fun c hc => (hletters c hc).1) hends
  have hdrop := dropWhile_run (fun c hc => (hletters c hc).1) hends
  obtain ⟨c, r, rfl⟩ : ∃ c r, s = c :: r := by
    refine List.exists_cons_of_ne_nil ?_
    rintro rfl
    contradiction
  obtain ⟨hletter, hstart⟩ := hletters c List.mem_cons_self
  obtain ⟨hspace, hmark, hquote⟩ := not_mark_of_start (c := c) (by simp [hletter])
  rw [List.cons_append] at htake hdrop ⊢
  rw [tokens?, if_neg (by simp [hspace]), hmark]
  dsimp only
  rw [if_neg hquote, dif_neg (by simp [hstart]), dif_pos hletter, htake, hdrop, hword]

/-! ## Cutting -/

/-- In front of the text `s`, the characters are the tokens. -/
def Cuts (chars : List Char) (ts : List Token) (s : List Char) : Prop :=
  tokens? (chars ++ s) = (tokens? s).map (ts ++ ·)

theorem Cuts.append {a b s : List Char} {ts us : List Token} (ha : Cuts a ts (b ++ s))
    (hb : Cuts b us s) : Cuts (a ++ b) (ts ++ us) s := by
  rw [Cuts] at ha hb ⊢
  rw [List.append_assoc, ha, hb]
  simp [Function.comp_def]

theorem cuts_nil (s : List Char) : Cuts [] [] s := by
  simp [Cuts]

theorem isSpace_of_isSpacing {s : List Char} (h : IsSpacing s) : ∀ c ∈ s, isSpace c = true := by
  intro c hc
  simpa [isSpace, or_assoc] using h c hc

/-- Space makes no tokens. -/
theorem cuts_spacing {before : List Char} (h : IsSpacing before) (s : List Char) :
    Cuts before [] s := by
  induction before with
  | nil => exact cuts_nil s
  | cons c before ih =>
    have hspace := isSpace_of_isSpacing h
    rw [Cuts, List.cons_append, tokens?_space (hspace c List.mem_cons_self)]
    exact ih fun d hd => h d (List.mem_cons_of_mem c hd)

theorem cuts_mark {c : Char} {token : Token} (h : punctuation? c = some token)
    (hspace : isSpace c = false) (s : List Char) : Cuts [c] [token] s :=
  tokens?_punctuation h hspace s

theorem endsToken_nil : EndsToken [] := by
  intro c hc
  contradiction

theorem endsToken_cons {c : Char} (h : isNumeralChar c = false ∧ c.isAlpha = false)
    (s : List Char) : EndsToken (c :: s) := by
  intro d hd
  obtain rfl := Option.some.inj hd
  exact h

/-- Space before a text that ends a token ends it, too. -/
theorem EndsToken.spacing {before s : List Char} (h : IsSpacing before) (hs : EndsToken s) :
    EndsToken (before ++ s) := by
  cases before with
  | nil => exact hs
  | cons c before =>
    refine endsToken_cons ?_ _
    rcases h c List.mem_cons_self with rfl | rfl | rfl | rfl <;> decide

/-- The characters are the tokens in front of every text that does not go on their last token. -/
def CutsInto (chars : List Char) (ts : List Token) : Prop := ∀ s, EndsToken s → Cuts chars ts s

theorem CutsInto.spaced {before chars after : List Char} {ts : List Token} (h : CutsInto chars ts)
    (hbefore : IsSpacing before) (hafter : IsSpacing after) :
    CutsInto (before ++ (chars ++ after)) ts := by
  intro s hs
  have hchars := (h _ (hs.spacing hafter)).append (cuts_spacing hafter s)
  have hall := (cuts_spacing hbefore _).append hchars
  rwa [List.nil_append, List.append_nil] at hall

/-- What stands between two brackets is cut as it is anywhere. -/
theorem CutsInto.enclosed {chars : List Char} {ts : List Token} (h : CutsInto chars ts)
    {first last : Char} {opening closing : Token} (hopening : punctuation? first = some opening)
    (hclosing : punctuation? last = some closing) (hfirst : isSpace first = false)
    (hlast : isSpace last = false ∧ isNumeralChar last = false ∧ last.isAlpha = false) :
    CutsInto (first :: (chars ++ [last])) (opening :: (ts ++ [closing])) := by
  intro s _
  have hchars := (h _ (endsToken_cons hlast.2 s)).append (cuts_mark hclosing hlast.1 s)
  exact (cuts_mark hopening hfirst _).append hchars

/-- A comma stands between two items and ends the first of them. -/
theorem CutsInto.comma {chars others : List Char} {ts us : List Token} (h : CutsInto chars ts)
    (hothers : CutsInto others us) :
    CutsInto (chars ++ ([','] ++ others)) (ts ++ ([.comma] ++ us)) := by
  intro s hs
  have hmark : punctuation? ',' = some .comma := rfl
  have hcomma := (cuts_mark hmark rfl _).append (hothers s hs)
  exact (h _ (endsToken_cons (by decide) _)).append hcomma

end WideColumn.Json
