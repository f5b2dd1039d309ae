import WideColumn.Proofs.Json.Token

/-!
# Whole numbers as numerals of JSON

A whole number is written as a numeral with a sign and digits, and read as one. No other numeral of
the grammar has a whole number for its value.

Main definition: `Numeral.ofInteger`.
Main results: `Numeral.spells_ofInteger_iff`, `Numeral.eq_ofInteger`.
-/

namespace WideColumn.Json

namespace Numeral

open Text

/-- The numeral that a whole number is written as. -/
def ofInteger : Int → Numeral
  | .ofNat n => ⟨false, ofNat n, none, none⟩
  | .negSucc n => ⟨true, ofNat (n + 1), none, none⟩

/-! ## Spelling -/

theorem isProper_ofNat (isNegative : Bool) (n : Nat) :
    IsProper ⟨isNegative, ofNat n, none, none⟩ where
  whole := ⟨ofNat_ne_nil n, fun _ => isDigit_of_mem_ofNat⟩
  leading := by
    rcases Nat.eq_zero_or_pos n with rfl | hpos
    · exact .inl rfl
    · obtain ⟨c, r, hfirst, -, hc⟩ := exists_first_digit n hpos
      refine .inr fun h => hc ?_
      rw [hfirst] at h
      exact Option.some.inj h
  fraction := by simp
  exponent := by simp

theorem isProper_ofInteger (i : Int) : (ofInteger i).IsProper := by
  cases i <;> exact isProper_ofNat _ _

/-- There is one way to write a whole number: its digits, after a sign if it is negative. -/
theorem spells_ofInteger_iff {s : List Char} {i : Int} :
    Spells s (ofInteger i) ↔ s = ofInt i := by
  have htext : signText (ofInteger i).isNegative ++
      ((ofInteger i).whole ++ (fractionText (ofInteger i).fraction ++ [])) = ofInt i := by
    cases i <;> simp [ofInteger, ofInt, signText, fractionText]
  constructor
  · intro h
    have hnone : (ofInteger i).exponent = none := by cases i <;> rfl
    generalize ofInteger i = n at h htext hnone
    cases h with
    | numeral _ hexponent =>
      rw [hnone] at hexponent
      cases hexponent
      exact htext
  · rintro rfl
    rw [← htext]
    refine .numeral (isProper_ofInteger i) ?_
    cases i <;> exact .none

theorem integer?_ofInteger (i : Int) : (ofInteger i).integer? = some i := by
  cases i with
  | ofNat n => simp [ofInteger, integer?, decimalValue_ofNat]
  | negSucc n => simp [ofInteger, integer?, decimalValue_ofNat, Int.negSucc_eq]

/-- Every whole number is read back from its numeral. -/
theorem exists_read?_ofInt (n : Int) :
    ∃ numeral, read? (ofInt n) = some numeral ∧ numeral.integer? = some n :=
  ⟨ofInteger n, read?_of_spells (spells_ofInteger_iff.mpr rfl), integer?_ofInteger n⟩

/-- A numeral whose value is a whole number is the one that the number is written as. -/
theorem eq_ofInteger {n : Numeral} (h : n.IsProper) {i : Int} (hi : n.integer? = some i) :
    n = ofInteger i := by
  have hwhole := ofNat_decimalValue h.whole.1 h.whole.2 h.leading
  obtain ⟨isNegative, whole, fraction, exponent⟩ := n
  dsimp only at hwhole
  cases fraction with
  | some digits => contradiction
  | none =>
  cases exponent with
  | some e => contradiction
  | none =>
  simp only [integer?] at hi
  generalize decimalValue whole = value at hi hwhole
  subst hwhole
  cases isNegative with
  | false =>
    obtain rfl := Option.some.inj hi
    rfl
  | true =>
    cases value with
    | zero => contradiction
    | succ value =>
      obtain rfl := Option.some.inj hi
      rfl

end Numeral

/-- A whole number is written as its digits. -/
theorem spells_ofInt (i : Int) : Spells (Text.ofInt i) (.number (.ofInteger i)) :=
  .number (Numeral.spells_ofInteger_iff.mpr rfl)

end WideColumn.Json
