import WideColumn.Cql.Identifier
import WideColumn.Proofs.Name.Camel
import WideColumn.Proofs.Name.ModelFile

/-!
# Names that need no quotes

A name that CQL takes without quotes is a word without capitals, so its field and its model are
named by words too, and the field tells the name.
-/

namespace WideColumn.Cql

open Name Text

theorem isWordChar_of_isPlainRest {c : Char} (h : isPlainRest c = true) : isWordChar c = true := by
  rw [isPlainRest, Bool.or_eq_true, Bool.or_eq_true] at h
  rcases h with (letter | digit) | under
  · have alpha : c.isAlpha = (c.isUpper || c.isLower) := rfl
    simp [isWordChar, Char.isAlphanum, alpha, letter]
  · simp [isWordChar, Char.isAlphanum, digit]
  · simpa [isWordChar] using Or.inr (of_decide_eq_true under)

theorem isUpper_of_isPlainRest {c : Char} (h : isPlainRest c = true) : c.isUpper = false := by
  rw [isPlainRest, Bool.or_eq_true, Bool.or_eq_true] at h
  rcases h with (letter | digit) | under
  · exact isUpper_eq_false_of_isLower letter
  · have := toNat_lt_of_isDigit digit
    rw [← Bool.not_eq_true, isUpper_iff]
    omega
  · rw [of_decide_eq_true under]
    decide

theorem isPlainRest_of_mem {s : List Char} (h : isPlain s = true) :
    ∀ c ∈ s, isPlainRest c = true := by
  cases s with
  | nil => simp
  | cons first rest =>
    rw [isPlain, Bool.and_eq_true] at h
    rw [List.forall_mem_cons]
    refine ⟨?_, List.all_eq_true.mp h.2⟩
    rcases Bool.or_eq_true_iff.mp h.1 with letter | under
    · simp [isPlainRest, letter]
    · simpa [isPlainRest] using Or.inr (of_decide_eq_true under)

theorem isUpper_of_mem {s : List Char} (h : isPlain s = true) : ∀ c ∈ s, c.isUpper = false :=
  fun c hc => isUpper_of_isPlainRest (isPlainRest_of_mem h c hc)

/-- A name that needs no quotes is a word. -/
theorem within_isWordChar {s : List Char} (h : isPlain s = true) : Within isWordChar s :=
  fun c hc => isWordChar_of_isPlainRest (isPlainRest_of_mem h c hc)

/-- The names of fields tell the names of their columns. -/
theorem camel_inj {a b : String} (ha : isPlain a.toList = true) (hb : isPlain b.toList = true)
    (h : camel a = camel b) : a = b :=
  String.toList_inj.mp
    (camelChars_inj (isUpper_of_mem ha) (isUpper_of_mem hb) (String.ofList_inj.mp h))

end WideColumn.Cql
