import Mathlib
import WideColumn.Proofs.Json.Numeral

/-!
# The range of numbers

A number is refused if no double can hold it. Whether one can is computed from a significand that is
cut off and rounded and from a power of ten that is rounded, too, so that right at the greatest
double a number may be refused that is less. None is refused that has few digits or lies below
`leastRefused`: rounding is monotone, so that is a matter of the greatest significand for each power
of ten.

Main definitions: `Numeral.magnitude`, `Numeral.IsReadable`.
Main results: `Numeral.roundToDouble_mono`, `Numeral.IsReadable.overflows`.
-/

namespace WideColumn.Json.Numeral

open Text

/-- The exponent as it is written. -/
def writtenExponent (n : Numeral) : Int :=
  match n.exponent with
  | none => 0
  | some e => if e.isNegative then -(decimalValue e.digits : Int) else decimalValue e.digits

/-- All digits before the exponent, as a number. -/
def coefficient (n : Numeral) : Nat := decimalValue (n.whole ++ n.fraction.getD [])

/-- The number without its sign. -/
def magnitude (n : Numeral) : ℚ :=
  n.coefficient * 10 ^ (n.writtenExponent - (n.fraction.getD []).length)

/-- The numeral with an exponent and without a point. -/
def scaled (whole exponent : Nat) : Numeral :=
  ⟨false, ofNat whole, none, some ⟨false, ofNat exponent⟩⟩

theorem spells_scaled (whole exponent : Nat) :
    Spells (ofNat whole ++ 'e' :: ofNat exponent) (scaled whole exponent) := by
  have hwhole := isProper_ofNat false whole
  have hproper : (scaled whole exponent).IsProper :=
    { whole := hwhole.whole
      leading := hwhole.leading
      fraction := by simp [scaled]
      exponent := by simpa [scaled] using (isProper_ofNat false exponent).whole }
  exact .numeral hproper (.unsigned (.inl rfl))

theorem magnitude_scaled (whole exponent : Nat) :
    (scaled whole exponent).magnitude = (whole * 10 ^ exponent : Nat) := by
  simp [scaled, magnitude, coefficient, writtenExponent, decimalValue_ofNat]

/-! ## Limits -/

/-- The greatest double. -/
def greatestDouble : Nat := 2 ^ 1024 - 2 ^ 971

/-- The least number that is refused. -/
def leastRefused : Nat := 17976931348623156225 * 10 ^ 289

/-- A double can hold the number, and it is less than what is refused or has up to eighteen
digits. -/
structure IsReadable (n : Numeral) : Prop where
  fits : n.magnitude ≤ greatestDouble
  clear : n.magnitude < leastRefused ∨ n.coefficient < 10 ^ 18

-- Of two numbers that a double can hold, the first is the least that is refused.
example : 17976931348623156225 * 10 ^ 289 = leastRefused ∧
    (scaled 17976931348623156225 289).overflows = true ∧
    17976931348623157081 * 10 ^ 289 < greatestDouble ∧
    (scaled 17976931348623157081 289).overflows = true := by
  decide +kernel

/-! ## Significands -/

theorem mul_pow_le_valueAfter (n : Nat) (s : List Char) :
    n * 10 ^ s.length ≤ valueAfter n s := by
  induction s generalizing n with
  | nil => simp [valueAfter_nil]
  | cons c s ih =>
    calc n * 10 ^ (c :: s).length = 10 * n * 10 ^ s.length := by
          rw [List.length_cons, pow_succ]
          ring
      _ ≤ (10 * n + (c.toNat - '0'.toNat)) * 10 ^ s.length :=
          Nat.mul_le_mul_right _ (Nat.le_add_right _ _)
      _ ≤ valueAfter n (c :: s) := ih _

/-- The digits that are kept are not more than all, with zeros for those that are left over. -/
theorem significand_le (s : List Char) (value : Nat) :
    (significand value s).1 * 10 ^ (significand value s).2 ≤ valueAfter value s ∧
      (significand value s).2 ≤ s.length := by
  induction s generalizing value with
  | nil => simp [significand, valueAfter_nil]
  | cons c s ih =>
    rw [significand]
    split
    · obtain ⟨hvalue, hlength⟩ := ih (10 * value + (c.toNat - '0'.toNat))
      exact ⟨hvalue, Nat.le_succ_of_le hlength⟩
    · exact ⟨mul_pow_le_valueAfter value (c :: s), Nat.le_refl _⟩

theorem valueAfter_append (n : Nat) (s t : List Char) :
    valueAfter n (s ++ t) = valueAfter (valueAfter n s) t := List.foldl_append

theorem valueAfter_mono {m n : Nat} (h : m ≤ n) (s : List Char) :
    valueAfter m s ≤ valueAfter n s := by
  induction s generalizing m n with
  | nil => exact h
  | cons c s ih =>
    rw [valueAfter_cons, valueAfter_cons]
    exact ih (by omega)

theorem significand_lt (s : List Char) {value : Nat} (h : value < UInt64.size) :
    (significand value s).1 < UInt64.size := by
  induction s generalizing value with
  | nil => exact h
  | cons c s ih =>
    rw [significand]
    split
    · exact ih ‹_›
    · exact h

/-- The digits that are kept and the power of ten that goes with them, of which the range is
computed, make a number that is not more than the whole one. -/
theorem exists_digits (n : Numeral) : ∃ (digits : Nat) (exponent : Int),
    (digits : ℚ) * 10 ^ exponent ≤ n.magnitude ∧ digits < UInt64.size ∧
      digits ≤ n.coefficient ∧
      n.overflows = if digits = 0 || exponent < 0 then false
        else if exponent > 308 then true
        else roundToDouble digits * roundToDouble (Nat.pow 10 exponent.toNat) ≥ doubleLimit := by
  obtain ⟨fraction, hfraction⟩ : ∃ fraction, n.fraction.getD [] = fraction := ⟨_, rfl⟩
  have hscale : ∀ {digits k : Nat} {exponent : Int},
      digits * 10 ^ k ≤ n.coefficient → exponent = n.writtenExponent - fraction.length + k →
      (digits : ℚ) * 10 ^ exponent ≤ n.magnitude ∧ digits ≤ n.coefficient := by
    intro digits k exponent h hexponent
    refine ⟨?_, (Nat.le_mul_of_pos_right _ (by positivity)).trans h⟩
    rw [hexponent, zpow_add₀ (by norm_num), zpow_natCast, mul_left_comm, mul_comm, magnitude,
      hfraction]
    exact mul_le_mul_of_nonneg_right (by exact_mod_cast h) (by positivity)
  have hvalue : n.coefficient = valueAfter (valueAfter 0 n.whole) fraction := by
    rw [coefficient, hfraction, decimalValue_eq, valueAfter_append]
  have hword := significand_lt n.whole (by decide : 0 < UInt64.size)
  rcases hwhole : significand 0 n.whole with ⟨wholePart, leftOver⟩
  obtain ⟨hpart, -⟩ := significand_le n.whole 0
  rw [hwhole] at hpart hword
  by_cases hfits : leftOver = 0
  · subst hfits
    rcases hdigits : significand wholePart fraction with ⟨digits, dropped⟩
    obtain ⟨hkept, hlength⟩ := significand_le fraction wholePart
    have hword' := significand_lt fraction hword
    rw [hdigits] at hkept hlength hword'
    have hall : digits * 10 ^ dropped ≤ n.coefficient :=
      hvalue ▸ hkept.trans (valueAfter_mono (by simpa using hpart) fraction)
    have hexponent : n.writtenExponent + (0 : Nat) - (fraction.length - dropped : Nat) =
        n.writtenExponent - fraction.length + dropped := by
      push_cast [hlength]
      ring
    obtain ⟨hscaled, hless⟩ := hscale hall hexponent
    refine ⟨digits, _, hscaled, hword', hless, ?_⟩
    simp only [overflows, writtenExponent, hwhole, hfraction, hdigits, if_true]
    rfl
  · have hall : wholePart * 10 ^ (leftOver + fraction.length) ≤ n.coefficient :=
      calc wholePart * 10 ^ (leftOver + fraction.length)
          = wholePart * 10 ^ leftOver * 10 ^ fraction.length := by rw [pow_add, mul_assoc]
        _ ≤ valueAfter 0 n.whole * 10 ^ fraction.length := Nat.mul_le_mul_right _ hpart
        _ ≤ valueAfter (valueAfter 0 n.whole) fraction := mul_pow_le_valueAfter _ fraction
        _ = n.coefficient := hvalue.symm
    have hexponent : n.writtenExponent + leftOver - (0 : Nat) =
        n.writtenExponent - fraction.length + (leftOver + fraction.length : Nat) := by
      push_cast
      ring
    obtain ⟨hscaled, hless⟩ := hscale hall hexponent
    refine ⟨wholePart, _, hscaled, hword, hless, ?_⟩
    simp only [overflows, writtenExponent, hwhole, hfraction, hfits, if_false]
    rfl

/-! ## Rounding -/

/-- A unit of the last bit that rounding keeps. -/
def lastUnit (n : Nat) : Nat := 2 ^ (Nat.log2 n + 1 - 53)

theorem lastUnit_dvd (n : Nat) : lastUnit n ∣ 2 ^ Nat.log2 n := pow_dvd_pow 2 (by omega)

theorem roundToDouble_eq (n : Nat) :
    roundToDouble n =
      if lastUnit n < 2 * (n % lastUnit n) ∨
          2 * (n % lastUnit n) = lastUnit n ∧ n / lastUnit n % 2 = 1 then
        (n / lastUnit n + 1) * lastUnit n
      else n / lastUnit n * lastUnit n := by
  simp [roundToDouble, lastUnit]

/-- A number is rounded to one of the two multiples of the unit around it. -/
theorem roundToDouble_bounds (n : Nat) :
    n / lastUnit n * lastUnit n ≤ roundToDouble n ∧
      roundToDouble n ≤ (n / lastUnit n + 1) * lastUnit n := by
  have hnext := Nat.mul_le_mul_right (lastUnit n) (Nat.le_succ (n / lastUnit n))
  rw [roundToDouble_eq]
  split
  · exact ⟨hnext, Nat.le_refl _⟩
  · exact ⟨Nat.le_refl _, hnext⟩

/-- Rounding does not cross a power of two, for that is a multiple of the unit. -/
theorem roundToDouble_between {n : Nat} (h : n ≠ 0) :
    2 ^ Nat.log2 n ≤ roundToDouble n ∧ roundToDouble n ≤ 2 ^ (Nat.log2 n + 1) := by
  obtain ⟨hbelow, habove⟩ := roundToDouble_bounds n
  have hunit := lastUnit_dvd n
  have hunit' : lastUnit n ∣ 2 ^ (Nat.log2 n + 1) := hunit.trans (pow_dvd_pow 2 (Nat.le_succ _))
  constructor
  · have hhigh := Nat.div_le_div_right (c := lastUnit n) (Nat.log2_self_le h)
    calc 2 ^ Nat.log2 n = 2 ^ Nat.log2 n / lastUnit n * lastUnit n :=
          (Nat.div_mul_cancel hunit).symm
      _ ≤ n / lastUnit n * lastUnit n := Nat.mul_le_mul_right _ hhigh
      _ ≤ roundToDouble n := hbelow
  · have hhigh := Nat.div_lt_div_of_lt_of_dvd hunit' (Nat.lt_log2_self (n := n))
    calc roundToDouble n ≤ (n / lastUnit n + 1) * lastUnit n := habove
      _ ≤ 2 ^ (Nat.log2 n + 1) / lastUnit n * lastUnit n := Nat.mul_le_mul_right _ hhigh
      _ = 2 ^ (Nat.log2 n + 1) := Nat.div_mul_cancel hunit'

/-- Numbers of one length are rounded to multiples of one unit. -/
theorem roundToDouble_le_of_log2_eq {m n : Nat} (h : m ≤ n) (hlength : Nat.log2 m = Nat.log2 n) :
    roundToDouble m ≤ roundToDouble n := by
  have hunit : lastUnit m = lastUnit n := by rw [lastUnit, hlength, lastUnit]
  obtain ⟨-, habove⟩ := roundToDouble_bounds m
  obtain ⟨hbelow, -⟩ := roundToDouble_bounds n
  rw [hunit] at habove
  rcases (Nat.div_le_div_right (c := lastUnit n) h).lt_or_eq with hlt | heq
  · exact habove.trans ((Nat.mul_le_mul_right _ hlt).trans hbelow)
  · -- Both are between the same multiples, and what is rounded off decides.
    have hm := Nat.div_add_mod m (lastUnit n)
    have hn := Nat.div_add_mod n (lastUnit n)
    rw [heq] at hm
    rw [roundToDouble_eq m, hunit, heq]
    split
    · rw [roundToDouble_eq n, if_pos (by omega)]
    · exact hbelow

theorem roundToDouble_mono {m n : Nat} (h : m ≤ n) : roundToDouble m ≤ roundToDouble n := by
  rcases Nat.eq_zero_or_pos m with rfl | hpos
  · exact (show roundToDouble 0 = 0 by decide) ▸ Nat.zero_le _
  have hm : m ≠ 0 := by omega
  have hn : n ≠ 0 := by omega
  have hlog : Nat.log2 m ≤ Nat.log2 n := (Nat.le_log2 hn).mpr ((Nat.log2_self_le hm).trans h)
  rcases hlog.lt_or_eq with hshorter | hlength
  · calc roundToDouble m ≤ 2 ^ (Nat.log2 m + 1) := (roundToDouble_between hm).2
      _ ≤ 2 ^ Nat.log2 n := Nat.pow_le_pow_right (by decide) hshorter
      _ ≤ roundToDouble n := (roundToDouble_between hn).1
  · exact roundToDouble_le_of_log2_eq h hlength

/-! ## What is read -/

/-- With each power of ten, the greatest significand up to the given one that makes less than the
bound is read. -/
def reads (most bound : Nat) : Bool :=
  (List.range 309).all fun k =>
    roundToDouble (min most ((bound - 1) / 10 ^ k)) * roundToDouble (10 ^ k) < doubleLimit

/-- Rounding is monotone, so it is enough to look at the greatest significands. -/
theorem overflows_of_reads {n : Numeral} {most bound : Nat} (hread : reads most bound = true)
    (hbound : bound ≤ 10 ^ 309) (hmagnitude : n.magnitude < bound)
    (hdigits : n.coefficient ≤ most ∨ UInt64.size ≤ most + 1) :
    n.overflows = false := by
  obtain ⟨digits, exponent, hscaled, hword, hless, hoverflows⟩ := n.exists_digits
  rw [hoverflows]
  split
  · rfl
  · rename_i hlarge
    simp only [Bool.or_eq_true, decide_eq_true_eq, not_or, Int.not_lt] at hlarge
    obtain ⟨hnonzero, hnonneg⟩ := hlarge
    obtain ⟨k, rfl⟩ := Int.eq_ofNat_of_zero_le hnonneg
    rw [zpow_natCast] at hscaled
    have hproduct : digits * 10 ^ k < bound := by exact_mod_cast hscaled.trans_lt hmagnitude
    have hpower : 10 ^ k < 10 ^ 309 :=
      (Nat.le_mul_of_pos_left _ (Nat.pos_of_ne_zero hnonzero)).trans_lt (hproduct.trans_le hbound)
    have hk : k < 309 := (pow_lt_pow_iff_right₀ (by decide : 1 < 10)).mp hpower
    have hmost : digits ≤ most := by omega
    have hgreatest : digits ≤ min most ((bound - 1) / 10 ^ k) :=
      le_min hmost ((Nat.le_div_iff_mul_le (by positivity)).mpr (Nat.le_sub_one_of_lt hproduct))
    have hlimit := of_decide_eq_true (List.all_eq_true.mp hread k (List.mem_range.mpr hk))
    rw [if_neg (by omega), decide_eq_false_iff_not, Nat.not_le]
    exact (Nat.mul_le_mul_right _ (roundToDouble_mono hgreatest)).trans_lt hlimit

theorem IsReadable.of_lt {n : Numeral} (h : n.magnitude < leastRefused) : n.IsReadable := by
  have hless : leastRefused ≤ greatestDouble := by decide +kernel
  exact ⟨h.le.trans (by exact_mod_cast hless), .inl h⟩

/-- A readable number is not refused. -/
theorem IsReadable.overflows {n : Numeral} (h : n.IsReadable) : n.overflows = false := by
  rcases h.clear with hless | hshort
  · have hreads : reads (UInt64.size - 1) leastRefused = true := by decide +kernel
    exact overflows_of_reads hreads (by decide +kernel) hless (.inr (by decide))
  · have hreads : reads (10 ^ 18 - 1) (greatestDouble + 1) = true := by decide +kernel
    have hless : n.magnitude < (greatestDouble + 1 : Nat) := by
      push_cast
      exact h.fits.trans_lt (lt_add_one _)
    exact overflows_of_reads hreads (by decide +kernel) hless (.inl (by omega))

/-! ## Whole numbers -/

theorem magnitude_ofInteger (i : Int) : (ofInteger i).magnitude = i.natAbs := by
  cases i <;> simp [ofInteger, magnitude, coefficient, writtenExponent, decimalValue_ofNat]

/-- A whole number of up to 308 digits is readable. -/
theorem isReadable_ofInteger {i : Int} (h : i.natAbs < 10 ^ 308) : (ofInteger i).IsReadable := by
  have hrefused : 10 ^ 308 ≤ leastRefused := by decide +kernel
  refine .of_lt ?_
  rw [magnitude_ofInteger]
  exact_mod_cast h.trans_le hrefused

end WideColumn.Json.Numeral
