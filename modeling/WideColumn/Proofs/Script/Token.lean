import WideColumn.Script.Expr
import WideColumn.Proofs.Text.Run

/-!
# Tokens of script expressions

The text of an expression is cut into words, numbers and marks. The cut takes the longest token
everywhere, as JavaScript does, and refuses a text in which the longest token is one that no
expression of the fragment has: `a === b` is not read as `a == = b`, nor `1.` as `1` and a point.
The only blank is the space.

Main definitions: `Token`, `tokens?`, `isName`.
Main results: `tokens?_word`, `tokens?_number`, `tokens?_mark`.
-/

namespace WideColumn.Script

open Text

/-- A token that is no word and no number. -/
inductive Mark where
  | openRound
  | closeRound
  | openSquare
  | closeSquare
  | point
  | comma
  | arrow
  | equals
  | question
  | colon
  deriving DecidableEq, Repr

/-- A token. -/
inductive Token where
  | word (name : String)
  | number (value : Nat)
  | mark (m : Mark)
  deriving DecidableEq, Repr

/-! ## Words -/

/-- The character can begin a word. -/
def isWordStart (c : Char) : Bool := c.isAlpha || c = '_' || c = '$'

/-- The character can go on a word. -/
def isWordPart (c : Char) : Bool := isWordStart c || c.isDigit

/-- The text is one word. -/
def isWord (name : String) : Bool :=
  match name.toList with
  | [] => false
  | c :: r => isWordStart c && r.all isWordPart

/-- The words that cannot be names of variables. -/
def reservedWords : List String :=
  ["arguments", "await", "break", "case", "catch", "class", "const", "continue", "debugger",
   "default", "delete", "do", "else", "enum", "eval", "export", "extends", "false", "finally",
   "for", "function", "if", "implements", "import", "in", "instanceof", "interface", "let", "new",
   "null", "package", "private", "protected", "public", "return", "static", "super", "switch",
   "this", "throw", "true", "try", "typeof", "var", "void", "while", "with", "yield"]

/-- The text can be the name of a variable. -/
def isName (name : String) : Bool := isWord name && !reservedWords.contains name

theorem le_toNat_of_isAlpha {c : Char} (h : c.isAlpha = true) : 65 ≤ c.toNat := by
  change (c.isUpper || c.isLower) = true at h
  rw [Bool.or_eq_true] at h
  rcases h with hupper | hlower
  · change decide (c.val ≥ 'A'.val ∧ c.val ≤ 'Z'.val) = true at hupper
    exact (of_decide_eq_true hupper).1
  · change (decide (c.val ≥ 'a'.val) && decide (c.val ≤ 'z'.val)) = true at hlower
    rw [Bool.and_eq_true, decide_eq_true_eq] at hlower
    have hle : 'a'.toNat ≤ c.toNat := hlower.1
    exact Nat.le_trans (by decide) hle

theorem isWordStart_of_isDigit {c : Char} (h : c.isDigit = true) : isWordStart c = false := by
  have hlt := Nat.lt_of_le_of_lt (Char.isDigit_iff_toNat.mp h).2 (by decide : '9'.toNat < 65)
  rw [isWordStart, Bool.or_eq_false_iff, Bool.or_eq_false_iff]
  refine ⟨⟨?_, ?_⟩, ?_⟩
  · rw [← Bool.not_eq_true]
    intro halpha
    have hle := le_toNat_of_isAlpha halpha
    omega
  · rw [decide_eq_false_iff_not]
    rintro rfl
    exact absurd h (by decide)
  · rw [decide_eq_false_iff_not]
    rintro rfl
    exact absurd h (by decide)

theorem ne_space_of_isWordPart {c : Char} (h : isWordPart c = true) : c ≠ ' ' := by
  rintro rfl
  exact absurd h (by decide)

/-! ## Marks -/

namespace Mark

/-- The mark as it is written. -/
def text : Mark → List Char
  | openRound => ['(']
  | closeRound => [')']
  | openSquare => ['[']
  | closeSquare => [']']
  | point => ['.']
  | comma => [',']
  | arrow => ['=', '>']
  | equals => ['=', '=']
  | question => ['?']
  | colon => [':']

/-- The mark and the character after it make another token. -/
def isLengthenedBy : Mark → Char → Bool
  | point, c => c = '.' || c.isDigit
  | equals, c => c = '='
  | question, c => c = '.' || c = '?'
  | _, _ => false

/-- The mark, unless the text after it lengthens it. -/
def before? (m : Mark) (rest : List Char) : Option (Mark × List Char) :=
  if rest.head?.any m.isLengthenedBy then none else some (m, rest)

/-- The mark that the text begins with, and what follows it. -/
def read? : List Char → Option (Mark × List Char)
  | '(' :: r => openRound.before? r
  | ')' :: r => closeRound.before? r
  | '[' :: r => openSquare.before? r
  | ']' :: r => closeSquare.before? r
  | '.' :: r => point.before? r
  | ',' :: r => comma.before? r
  | '=' :: '>' :: r => arrow.before? r
  | '=' :: '=' :: r => equals.before? r
  | '?' :: r => question.before? r
  | ':' :: r => colon.before? r
  | _ => none

theorem read?_text (m : Mark) (s : List Char) : read? (m.text ++ s) = m.before? s := by
  cases m <;> rfl

theorem length_read? {s rest : List Char} {m : Mark} (h : read? s = some (m, rest)) :
    rest.length < s.length := by
  have hbefore : ∀ {m' : Mark} {r : List Char}, m'.before? r = some (m, rest) → rest = r := by
    intro m' r hr
    rw [before?] at hr
    split at hr
    · contradiction
    · exact (Prod.mk.inj (Option.some.inj hr)).2.symm
  unfold read? at h
  split at h
  all_goals first
    | contradiction
    | (obtain rfl := hbefore h; simp only [List.length_cons]; omega)

end Mark

/-! ## The cut -/

/-- A number may not have a word or a point right after it. -/
def lengthensNumber (c : Char) : Bool := isWordPart c || c = '.'

/-- The tokens of a text. -/
def tokens? : List Char → Option (List Token)
  | [] => some []
  | c :: r =>
    if c = ' ' then tokens? r
    else if isWordStart c then
      (tokens? (r.dropWhile isWordPart)).map
        (.word (String.ofList (c :: r.takeWhile isWordPart)) :: ·)
    else if c.isDigit then
      let digits := c :: r.takeWhile Char.isDigit
      let rest := r.dropWhile Char.isDigit
      if ofNat (decimalValue digits) ≠ digits || rest.head?.any lengthensNumber then none
      else (tokens? rest).map (.number (decimalValue digits) :: ·)
    else
      match _h : Mark.read? (c :: r) with
      | some (m, rest) => (tokens? rest).map (.mark m :: ·)
      | none => none
termination_by s => s.length
decreasing_by
  · simp
  · have := (r.dropWhile_sublist isWordPart).length_le
    simp only [List.length_cons]
    omega
  · have := (r.dropWhile_sublist Char.isDigit).length_le
    simp only [List.length_cons]
    omega
  · exact Mark.length_read? ‹_›

theorem tokens?_space (s : List Char) : tokens? (' ' :: s) = tokens? s := by
  rw [tokens?, if_pos rfl]

/-- A word is read where nothing lengthens it. -/
theorem tokens?_word {name : String} (h : isWord name = true) {s : List Char}
    (hs : ∀ c ∈ s.head?, isWordPart c = false) :
    tokens? (name.toList ++ s) = (tokens? s).map (.word name :: ·) := by
  cases hname : name.toList with
  | nil => simp [isWord, hname] at h
  | cons c r =>
    simp only [isWord, hname, Bool.and_eq_true, List.all_eq_true] at h
    obtain ⟨hc, hr⟩ := h
    have hspace : c ≠ ' ' := ne_space_of_isWordPart (by rw [isWordPart, hc, Bool.true_or])
    have htake : (r ++ s).takeWhile isWordPart = r := takeWhile_run hr hs
    have hdrop : (r ++ s).dropWhile isWordPart = s := dropWhile_run hr hs
    rw [List.cons_append, tokens?, if_neg hspace, if_pos hc, htake, hdrop, ← hname,
      String.ofList_toList]

theorem tokens?_number (n : Nat) {s : List Char}
    (hs : ∀ c ∈ s.head?, lengthensNumber c = false) :
    tokens? (ofNat n ++ s) = (tokens? s).map (.number n :: ·) := by
  have hdigit : ∀ c ∈ s.head?, c.isDigit = false := by
    intro c hc
    have hboth := hs c hc
    simp only [lengthensNumber, isWordPart, Bool.or_eq_false_iff] at hboth
    exact hboth.1.2
  have hnumber : s.head?.any lengthensNumber = false := by
    cases s with
    | nil => rfl
    | cons c r => simpa using hs c rfl
  cases hn : ofNat n with
  | nil => exact absurd hn (ofNat_ne_nil n)
  | cons c r =>
    have hdigits : ∀ d ∈ c :: r, d.isDigit = true := fun d hd => isDigit_of_mem_ofNat (hn ▸ hd)
    have hc : c.isDigit = true := hdigits c List.mem_cons_self
    have hr : ∀ d ∈ r, d.isDigit = true := fun d hd => hdigits d (List.mem_cons_of_mem c hd)
    have hspace : c ≠ ' ' := ne_space_of_isWordPart (by rw [isWordPart, hc, Bool.or_true])
    have hstart : ¬isWordStart c = true := by rw [isWordStart_of_isDigit hc]; decide
    rw [List.cons_append, tokens?, if_neg hspace, if_neg hstart, if_pos hc,
      takeWhile_run hr hdigit, dropWhile_run hr hdigit, ← hn]
    simp [hnumber, decimalValue_ofNat]

theorem tokens?_mark (m : Mark) {s : List Char}
    (hs : ∀ c ∈ s.head?, m.isLengthenedBy c = false) :
    tokens? (m.text ++ s) = (tokens? s).map (.mark m :: ·) := by
  have hread : Mark.read? (m.text ++ s) = some (m, s) := by
    rw [Mark.read?_text, Mark.before?, if_neg]
    cases s with
    | nil => simp
    | cons c r => simpa using hs c rfl
  -- The first character of a mark is none that the cut looks for before it looks for marks.
  have hfirst : ∃ c r, m.text ++ s = c :: r ∧ c ≠ ' ' ∧ isWordPart c = false := by
    cases m <;> exact ⟨_, _, rfl, by decide, by decide⟩
  obtain ⟨c, r, hcons, hspace, hpart⟩ := hfirst
  rw [isWordPart, Bool.or_eq_false_iff] at hpart
  have hstart : ¬isWordStart c = true := by rw [hpart.1]; decide
  have hdigit : ¬c.isDigit = true := by rw [hpart.2]; decide
  rw [hcons] at hread ⊢
  rw [tokens?, if_neg hspace, if_neg hstart, if_neg hdigit]
  split
  · rename_i m' rest heq
    rw [hread] at heq
    cases heq
    rfl
  · rename_i heq
    rw [hread] at heq
    contradiction

end WideColumn.Script
