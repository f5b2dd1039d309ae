import WideColumn.Json.Token
import WideColumn.Text.Digits

/-!
# String literals of scripts

A string literal stands between two quotes of one kind. In it a backslash begins an escape, the end
of a line has no place, and every other character stands for itself. An escape is always longer than
what it stands for, so a literal that is as long as its text has none.

An escape may stand for half of a surrogate pair, as in JSON. A literal with half of a pair alone
has no text, and it is not read here.

Main definitions: `readEscape?`, `readLiteral?`, `isQuotable`.
Main result: `readLiteral?_iff`, the texts that stand for themselves between single quotes.
-/

namespace WideColumn.Script

open Text Json

/-! ## Escapes -/

/-- The characters that a letter after a backslash stands for. -/
def escapeLetters : List (Char × Char) :=
  [('b', '\x08'), ('t', '\t'), ('n', '\n'), ('v', '\x0b'), ('f', '\x0c'), ('r', '\r')]

/-- The number that hexadecimal digits in braces spell, and what follows them. -/
def readBraced? (s : List Char) : Option (Nat × List Char) :=
  let digits := s.takeWhile (· ≠ '}')
  match s.dropWhile (· ≠ '}') with
  | [] => none
  | _ :: rest =>
    if !digits.isEmpty && digits.all (fun c => (hexDigit? c).isSome)
        && valueIn 16 digits ≤ 0x10FFFF then
      some (valueIn 16 digits, rest)
    else none

/-- The code point that an escape spells after its `u`, and what follows the escape. -/
def readCodePoint? : List Char → Option (Nat × List Char)
  | '{' :: r => readBraced? r
  | a :: b :: c :: d :: r => (hexUnit? a b c d).map (·, r)
  | _ => none

/-- What a code point is in a text. -/
def pieceOf (code : Nat) : Piece :=
  if code < 0x10000 then .unit code else .char (Char.ofNat code)

/-- A line ends with the character. -/
def isLineEnd (c : Char) : Bool := c = '\n' || c = '\r' || c = '\u2028' || c = '\u2029'

/-- What an escape after its backslash stands for, and what follows it. No digit makes an escape but
a zero on its own, and an escaped end of a line stands for nothing. -/
def readEscape? : List Char → Option (List Piece × List Char)
  | [] => none
  | 'u' :: r => (readCodePoint? r).map fun (code, rest) => ([pieceOf code], rest)
  | 'x' :: a :: b :: r => (hexUnit? '0' '0' a b).map fun code => ([.unit code], r)
  | '\r' :: '\n' :: r => some ([], r)
  | c :: r =>
    if isLineEnd c then some ([], r)
    else if c = '0' && !r.head?.any Char.isDigit then some ([.char '\x00'], r)
    else if c.isDigit || c = 'x' then none
    else some ([.char ((escapeLetters.lookup c).getD c)], r)

theorem length_readBraced? {s rest : List Char} {code : Nat}
    (h : readBraced? s = some (code, rest)) : rest.length < s.length := by
  unfold readBraced? at h
  dsimp only at h
  split at h
  · contradiction
  · rename_i brace r hdrop
    have hle := (s.dropWhile_sublist (· ≠ '}')).length_le
    split at h
    · obtain ⟨-, rfl⟩ := Prod.mk.inj (Option.some.inj h)
      rw [hdrop, List.length_cons] at hle
      omega
    · contradiction

theorem length_readCodePoint? {s rest : List Char} {code : Nat}
    (h : readCodePoint? s = some (code, rest)) : rest.length < s.length := by
  unfold readCodePoint? at h
  split at h
  · have hlt := length_readBraced? h
    simp only [List.length_cons]
    omega
  · obtain ⟨_, -, heq⟩ := Option.map_eq_some_iff.mp h
    obtain ⟨-, rfl⟩ := Prod.mk.inj heq
    simp only [List.length_cons]
    omega
  · contradiction

/-- An escape is at least as long, without its backslash, as what it stands for. -/
theorem length_readEscape? {s rest : List Char} {ps : List Piece}
    (h : readEscape? s = some (ps, rest)) : ps.length + rest.length ≤ s.length := by
  unfold readEscape? at h
  split at h
  · contradiction
  · obtain ⟨⟨code, r⟩, hcode, heq⟩ := Option.map_eq_some_iff.mp h
    obtain ⟨rfl, rfl⟩ := Prod.mk.inj heq
    have hlt := length_readCodePoint? hcode
    simp only [List.length_cons, List.length_nil]
    omega
  · obtain ⟨code, -, heq⟩ := Option.map_eq_some_iff.mp h
    obtain ⟨rfl, rfl⟩ := Prod.mk.inj heq
    simp only [List.length_cons, List.length_nil]
    omega
  · obtain ⟨rfl, rfl⟩ := Prod.mk.inj (Option.some.inj h)
    simp only [List.length_cons, List.length_nil]
    omega
  · split at h
    · obtain ⟨rfl, rfl⟩ := Prod.mk.inj (Option.some.inj h)
      simp
    split at h
    · obtain ⟨rfl, rfl⟩ := Prod.mk.inj (Option.some.inj h)
      simp [Nat.add_comm]
    split at h
    · contradiction
    · obtain ⟨rfl, rfl⟩ := Prod.mk.inj (Option.some.inj h)
      simp [Nat.add_comm]

/-! ## Literals -/

/-- The pieces of a literal after its first quote, and what follows its last one. -/
def scanLiteral? (quote : Char) : List Char → Option (List Piece × List Char)
  | [] => none
  | c :: r =>
    if c = quote then some ([], r)
    else if c = '\\' then
      match _h : readEscape? r with
      | some (ps, rest) => (scanLiteral? quote rest).map fun (qs, after) => (ps ++ qs, after)
      | none => none
    else if c = '\n' || c = '\r' then none
    else (scanLiteral? quote r).map fun (qs, after) => (.char c :: qs, after)
termination_by s => s.length
decreasing_by
  · have hle := length_readEscape? _h
    simp only [List.length_cons]
    omega
  · simp

/-- The text of a literal after its first quote, and what follows its last one. -/
def readLiteral? (quote : Char) (s : List Char) : Option (List Char × List Char) :=
  (scanLiteral? quote s).bind fun (ps, rest) => (decodePieces ps).map (·, rest)

theorem length_scanLiteral? {quote : Char} {s rest : List Char} {ps : List Piece}
    (h : scanLiteral? quote s = some (ps, rest)) : ps.length + rest.length < s.length := by
  fun_induction scanLiteral? quote s generalizing ps rest with
  | case1 => contradiction
  | case2 r =>
    obtain ⟨rfl, rfl⟩ := Prod.mk.inj (Option.some.inj h)
    simp
  | case3 r qs after hescape hquote ih =>
    obtain ⟨⟨more, r'⟩, hmore, heq⟩ := Option.map_eq_some_iff.mp h
    obtain ⟨rfl, rfl⟩ := Prod.mk.inj heq
    have hle := length_readEscape? hescape
    have hlt := ih hmore
    simp only [List.length_append, List.length_cons]
    omega
  | case4 => contradiction
  | case5 => contradiction
  | case6 c r hquote hslash hend ih =>
    obtain ⟨⟨more, r'⟩, hmore, heq⟩ := Option.map_eq_some_iff.mp h
    obtain ⟨rfl, rfl⟩ := Prod.mk.inj heq
    have hlt := ih hmore
    simp only [List.length_cons]
    omega

/-- A piece is at most one character, and two halves of a pair are one together. -/
theorem length_decodePieces {ps : List Piece} {s : List Char} (h : decodePieces ps = some s) :
    s.length ≤ ps.length := by
  have hcons : ∀ {c : Char} {qs : List Piece} {t : List Char},
      (∀ {u : List Char}, decodePieces qs = some u → u.length ≤ qs.length) →
        (decodePieces qs).map (c :: ·) = some t → t.length ≤ qs.length + 1 := by
    intro c qs t hqs ht
    obtain ⟨u, hu, rfl⟩ := Option.map_eq_some_iff.mp ht
    exact Nat.succ_le_succ (hqs hu)
  fun_induction decodePieces ps generalizing s with
  | case1 =>
    obtain rfl := Option.some.inj h
    simp
  | case2 c r ih => exact hcons ih h
  | case3 high low r _ _ ih => exact Nat.le_succ_of_le (hcons ih h)
  | case4 => contradiction
  | case5 => contradiction
  | case6 high low r _ _ ih => exact hcons ih h
  | case7 => contradiction
  | case8 code r _ _ ih => exact hcons ih h

theorem readLiteral?_eq_some {quote : Char} {s text rest : List Char}
    (h : readLiteral? quote s = some (text, rest)) :
    ∃ ps, scanLiteral? quote s = some (ps, rest) ∧ decodePieces ps = some text := by
  obtain ⟨⟨ps, r⟩, hscan, hdecode⟩ := Option.bind_eq_some_iff.mp h
  obtain ⟨t, ht, heq⟩ := Option.map_eq_some_iff.mp hdecode
  obtain ⟨rfl, rfl⟩ := Prod.mk.inj heq
  exact ⟨ps, hscan, ht⟩

/-- A literal is longer than its text. -/
theorem length_readLiteral? {quote : Char} {s text rest : List Char}
    (h : readLiteral? quote s = some (text, rest)) : text.length + rest.length < s.length := by
  obtain ⟨ps, hscan, hdecode⟩ := readLiteral?_eq_some h
  have hlt := length_scanLiteral? hscan
  have hle := length_decodePieces hdecode
  omega

/-- The backslash of an escape makes the literal longer still. -/
theorem length_readLiteral?_escape {s text rest : List Char}
    (h : readLiteral? '\'' ('\\' :: s) = some (text, rest)) :
    text.length + rest.length < s.length := by
  obtain ⟨ps, hscan, hdecode⟩ := readLiteral?_eq_some h
  have htext := length_decodePieces hdecode
  rw [scanLiteral?, if_neg (by decide), if_pos rfl] at hscan
  split at hscan
  · rename_i qs after hescape
    obtain ⟨⟨more, r'⟩, hmore, heq⟩ := Option.map_eq_some_iff.mp hscan
    obtain ⟨rfl, rfl⟩ := Prod.mk.inj heq
    have hle := length_readEscape? hescape
    have hlt := length_scanLiteral? hmore
    rw [List.length_append] at htext
    omega
  · contradiction

/-! ## Texts that stand for themselves -/

/-- The text stands for itself between single quotes. -/
def isQuotable (s : List Char) : Bool :=
  s.all fun c => !(c = '\'' || c = '\\' || c = '\n' || c = '\r')

theorem readLiteral?_close (rest : List Char) :
    readLiteral? '\'' ('\'' :: rest) = some ([], rest) := by
  simp [readLiteral?, scanLiteral?, decodePieces]

theorem readLiteral?_cons {c : Char} (hquote : c ≠ '\'') (hslash : c ≠ '\\')
    (hend : ¬ (c = '\n' || c = '\r') = true) (s : List Char) :
    readLiteral? '\'' (c :: s) =
      (readLiteral? '\'' s).map fun (text, rest) => (c :: text, rest) := by
  unfold readLiteral?
  rw [scanLiteral?, if_neg hquote, if_neg hslash, if_neg hend]
  cases scanLiteral? '\'' s with
  | none => rfl
  | some result =>
    obtain ⟨ps, rest⟩ := result
    cases hps : decodePieces ps <;> simp [decodePieces, hps]

/-- A text between single quotes is read as itself just if it has no quote, no backslash and no end
of a line: a quote ends the literal too early, and an escape makes it longer than its text. -/
theorem readLiteral?_iff {s after : List Char} :
    readLiteral? '\'' (s ++ '\'' :: after) = some (s, after) ↔ isQuotable s = true := by
  induction s with
  | nil => simp [readLiteral?_close, isQuotable]
  | cons c s ih =>
    rw [List.cons_append]
    by_cases hquote : c = '\''
    · subst hquote
      simp [readLiteral?_close, isQuotable]
    by_cases hslash : c = '\\'
    · subst hslash
      have hlong : readLiteral? '\'' ('\\' :: (s ++ '\'' :: after)) ≠ some ('\\' :: s, after) := by
        intro h
        have hlt := length_readLiteral?_escape h
        simp only [List.length_cons, List.length_append] at hlt
        omega
      simp [hlong, isQuotable]
    by_cases hend : c = '\n' ∨ c = '\r'
    · have hnone : readLiteral? '\'' (c :: (s ++ '\'' :: after)) = none := by
        rw [readLiteral?, scanLiteral?, if_neg hquote, if_neg hslash, if_pos (by simpa using hend)]
        rfl
      rcases hend with rfl | rfl <;> simp [hnone, isQuotable]
    · have hplain : isQuotable (c :: s) = isQuotable s := by
        rw [not_or] at hend
        simp [isQuotable, hquote, hslash, hend.1, hend.2]
      rw [readLiteral?_cons hquote hslash (by simpa using hend), hplain, ← ih]
      simp [Option.map_eq_some_iff]

end WideColumn.Script
