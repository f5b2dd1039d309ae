/-!
# Splitting texts

Lines, the names of a path and the items of a list are the parts of a text between separators. Parts
may be empty, and there is one more than there are separators.

Main definitions: `Text.splitAt`.
-/

namespace WideColumn.Text

/-- The parts of a text between the separators. -/
def splitAt (separator : Char) : List Char → List (List Char)
  | [] => [[]]
  | c :: r =>
    if c = separator then [] :: splitAt separator r
    else match splitAt separator r with
      | [] => [[c]]
      | part :: rest => (c :: part) :: rest

theorem splitAt_ne_nil (separator : Char) (s : List Char) : splitAt separator s ≠ [] := by
  cases s with
  | nil => simp [splitAt]
  | cons c r =>
    by_cases h : c = separator
    · simp [splitAt, h]
    · simp only [splitAt, h, if_false]
      split <;> simp

/-- Nothing is lost: the parts with the separator between them are the text. -/
theorem intercalate_splitAt (separator : Char) (s : List Char) :
    [separator].intercalate (splitAt separator s) = s := by
  induction s with
  | nil => simp [splitAt, List.intercalate]
  | cons c r ih =>
    by_cases h : c = separator
    · subst h
      cases hs : splitAt c r with
      | nil => exact absurd hs (splitAt_ne_nil c r)
      | cons part rest =>
        rw [hs] at ih
        simp only [splitAt, if_true, hs]
        simpa [List.intercalate] using ih
    · cases hs : splitAt separator r with
      | nil => exact absurd hs (splitAt_ne_nil separator r)
      | cons part rest =>
        rw [hs] at ih
        simp only [splitAt, h, if_false, hs]
        cases rest <;> simpa [List.intercalate] using ih

end WideColumn.Text
