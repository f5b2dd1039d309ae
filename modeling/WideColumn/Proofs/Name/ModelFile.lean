import WideColumn.Proofs.Disk.Entry
import WideColumn.Proofs.Name.Alphabet

/-!
# The file names of models

A table that is named by a word gives its model a file name that is an entry of a directory: every
step from the name of the table to the name of the file keeps to ASCII characters without the
slash.
-/

namespace WideColumn.Name

open Text

/-- A word over ASCII letters, digits and the underscore. -/
def IsWord (name : String) : Prop :=
  name ≠ "" ∧ (name.toList.all fun c => c.isAlphanum || c = '_') = true

instance (name : String) : Decidable (IsWord name) := inferInstanceAs (Decidable (_ ∧ _))

/-- An ASCII character that separates no names. -/
def isPlain (c : Char) : Bool := c.toNat < 128 && c.toNat ≠ 47

theorem isPlain_iff {c : Char} : isPlain c = true ↔ c.toNat < 128 ∧ c.toNat ≠ 47 := by
  simp [isPlain]

theorem isPlain_of_isAlphanum {c : Char} (h : c.isAlphanum = true) : isPlain c = true := by
  change ((c.isUpper || c.isLower) || c.isDigit) = true at h
  rw [Bool.or_eq_true, Bool.or_eq_true, Char.isDigit_iff_toNat] at h
  rw [isPlain_iff]
  rcases h with (upper | lower) | ⟨lo, hi⟩
  · have lo : 65 ≤ c.toNat := (of_decide_eq_true upper).1
    have hi : c.toNat ≤ 90 := (of_decide_eq_true upper).2
    omega
  · obtain ⟨lo, hi⟩ := Bool.and_eq_true_iff.1 lower
    have lo : 97 ≤ c.toNat := of_decide_eq_true lo
    have hi : c.toNat ≤ 122 := of_decide_eq_true hi
    omega
  · have lo : 48 ≤ c.toNat := lo
    have hi : c.toNat ≤ 57 := hi
    omega

theorem isAlphabet_isPlain : IsAlphabet isPlain where
  ascii h := (isPlain_iff.mp h).1
  letter h := isPlain_of_isAlphanum (Bool.or_eq_true_iff.mpr (.inl h))

/-- A character that a word may have. -/
def isWordChar (c : Char) : Bool := c.isAlphanum || c = '_'

theorem isPlain_of_isWordChar {c : Char} (h : isWordChar c = true) : isPlain c = true := by
  rcases Bool.or_eq_true_iff.1 h with letter | under
  · exact isPlain_of_isAlphanum letter
  · rw [of_decide_eq_true under]
    decide

theorem isAlphabet_isWordChar : IsAlphabet isWordChar where
  ascii h := (isPlain_iff.mp (isPlain_of_isWordChar h)).1
  letter h := Bool.or_eq_true_iff.mpr (.inl (Bool.or_eq_true_iff.mpr (.inl h)))

/-! ## Files -/

theorem IsWord.within_isPlain {name : String} (h : IsWord name) : Within isPlain name.toList :=
  fun c hc => isPlain_of_isWordChar (List.all_eq_true.1 h.2 c hc)

theorem IsWord.modelFile {table : String} (h : IsWord table) :
    Path.IsEntry (Name.modelFile table) := by
  have plain : Within isPlain (Name.modelFile table).toList := by
    rw [Name.modelFile, String.toList_append]
    refine Within.append ?_ (by simp [Within]; decide)
    exact (h.within_isPlain.entity isAlphabet_isPlain).kebab isAlphabet_isPlain (by decide)
  have letter : 't' ∈ (Name.modelFile table).toList := by
    simp [Name.modelFile]
  refine ⟨⟨fun e => ?_, fun slash => ?_⟩, fun e => ?_, fun e => ?_⟩
  · rw [e] at letter
    exact absurd letter (by decide)
  · exact absurd (plain '/' slash) (by decide)
  · rw [e] at letter
    exact absurd letter (by decide)
  · rw [e] at letter
    exact absurd letter (by decide)

end WideColumn.Name
