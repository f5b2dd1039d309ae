import WideColumn.Text.CodePoints

/-!
# Blank characters

A character is blank when it has the Unicode property `White_Space`. Leading and trailing blanks of
names, types and addresses carry no meaning, and a formatter command is cut at them into words.

Main definitions: `Text.isBlank`, `Text.trim`, `Text.words`, `Text.allBlank`.
-/

namespace WideColumn.Text

/-- The code points with the property `White_Space`. -/
def blanks : CodePoints :=
  ⟨[(0x09, 0x0D), (0x20, 0x20), (0x85, 0x85), (0xA0, 0xA0), (0x1680, 0x1680), (0x2000, 0x200A),
    (0x2028, 0x2029), (0x202F, 0x202F), (0x205F, 0x205F), (0x3000, 0x3000)]⟩

/-- The character is white space. -/
def isBlank (c : Char) : Bool := blanks.contains c

/-! ## Trimming -/

/-- Drops the blanks in front. -/
def trimStart (s : List Char) : List Char := s.dropWhile isBlank

/-- Drops the blanks at the end. -/
def trimEnd (s : List Char) : List Char := (s.reverse.dropWhile isBlank).reverse

/-- Drops the blanks in front and at the end. -/
def trim (s : List Char) : List Char := trimEnd (trimStart s)

/-- The text has no character but blanks; the empty text is one of these. -/
def allBlank (s : List Char) : Bool := s.all isBlank

theorem length_dropWhile_le (p : Char → Bool) (s : List Char) :
    (s.dropWhile p).length ≤ s.length := by
  induction s with
  | nil => simp
  | cons c r ih =>
    rw [List.dropWhile_cons]
    split
    · simp only [List.length_cons]; omega
    · exact Nat.le_refl _

theorem length_trimStart_le (s : List Char) : (trimStart s).length ≤ s.length :=
  length_dropWhile_le isBlank s

theorem length_trimEnd_le (s : List Char) : (trimEnd s).length ≤ s.length := by
  have h := length_dropWhile_le isBlank s.reverse
  simpa [trimEnd] using h

/-- Trimming never lengthens a text, which is what lets a reader recurse on trimmed parts. -/
theorem length_trim_le (s : List Char) : (trim s).length ≤ s.length :=
  Nat.le_trans (length_trimEnd_le _) (length_trimStart_le _)

/-! ## Words -/

/-- The maximal runs of characters that are not blank. `word` is the run being read, last character
first. -/
def wordsFrom : (word : List Char) → List Char → List (List Char)
  | word, [] => if word.isEmpty then [] else [word.reverse]
  | word, c :: r =>
    if isBlank c then
      if word.isEmpty then wordsFrom [] r else word.reverse :: wordsFrom [] r
    else wordsFrom (c :: word) r

/-- The words of a text, cut at blanks of any number. -/
def words (s : List Char) : List (List Char) := wordsFrom [] s

end WideColumn.Text
