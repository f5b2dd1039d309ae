import WideColumn.Text.Digits

/-!
# Runs of characters

A run of characters is read up to the first character that does not belong to it, and what is
behind that character makes no difference. The numeral of a
number is a run of digits, which reads back as the number and does not begin with a zero unless the
number is zero. A run of digits like that is the numeral of its value.

Main results: `takeWhile_run`, `dropWhile_run`, `decimalValue_ofNat`, `exists_first_digit`,
`ofNat_decimalValue`.
-/

namespace WideColumn.Text

/-! ## Runs -/

section Run

variable {p : Char → Bool} {r s : List Char}

theorem takeWhile_append_closing (hs : ∀ c ∈ s.head?, p c = false) (r : List Char) :
    (r ++ s).takeWhile p = r.takeWhile p := by
  induction r with
  | nil =>
    cases s with
    | nil => rfl
    | cons c s => simp [hs c rfl]
  | cons c r ih => simp only [List.cons_append, List.takeWhile_cons, ih]

theorem dropWhile_append_closing (hs : ∀ c ∈ s.head?, p c = false) (r : List Char) :
    (r ++ s).dropWhile p = r.dropWhile p ++ s := by
  induction r with
  | nil =>
    cases s with
    | nil => rfl
    | cons c s => simp [hs c rfl]
  | cons c r ih =>
    simp only [List.cons_append, List.dropWhile_cons, ih]
    split <;> rfl

theorem takeWhile_run (hr : ∀ c ∈ r, p c = true) (hs : ∀ c ∈ s.head?, p c = false) :
    (r ++ s).takeWhile p = r := by
  rw [takeWhile_append_closing hs, ← List.append_nil r, List.takeWhile_append_of_pos hr,
    List.takeWhile_nil]

theorem dropWhile_run (hr : ∀ c ∈ r, p c = true) (hs : ∀ c ∈ s.head?, p c = false) :
    (r ++ s).dropWhile p = s := by
  rw [List.dropWhile_append_of_pos hr]
  exact dropWhile_append_closing hs []

end Run

/-! ## Numerals -/

theorem ne_of_isDigit {c d : Char} (h : c.isDigit = true) (hd : d.isDigit = false) : c ≠ d := by
  rintro rfl
  exact absurd (h.symm.trans hd) (by decide)

theorem dropPlus_of_isDigit {digits : List Char} (h : ∀ c ∈ digits, c.isDigit = true) :
    dropPlus digits = digits := by
  unfold dropPlus
  split
  · exact absurd (h '+' List.mem_cons_self) (by decide)
  · rfl

theorem ofNat_ne_nil (n : Nat) : ofNat n ≠ [] := Nat.toDigits_ne_nil

theorem isDigit_of_mem_ofNat {n : Nat} {c : Char} (h : c ∈ ofNat n) : c.isDigit = true :=
  Nat.isDigit_of_mem_toDigits (by decide) (by decide) h

theorem decimalValue_ofNat (n : Nat) : decimalValue (ofNat n) = n :=
  Nat.ofDigitChars_ten_toDigits

theorem ofNat_of_lt {n : Nat} (h : n < 10) : ofNat n = [n.digitChar] :=
  Nat.toDigits_of_lt_base h

theorem ofNat_of_le {n : Nat} (h : 10 ≤ n) : ofNat n = ofNat (n / 10) ++ [(n % 10).digitChar] :=
  Nat.toDigits_of_base_le (by decide) h

theorem digitChar_ne_zero {n : Nat} (hpos : 0 < n) (h : n < 10) : n.digitChar ≠ '0' := by
  intro hzero
  have hvalue := decimalValue_ofNat n
  rw [ofNat_of_lt h, hzero] at hvalue
  have hread : decimalValue ['0'] = 0 := rfl
  omega

/-- The first digit of a positive number is not a zero. The last digits come off one by one until
the first one is left. -/
theorem exists_first_digit (n : Nat) :
    0 < n → ∃ c r, ofNat n = c :: r ∧ c.isDigit = true ∧ c ≠ '0' := by
  induction n using Nat.strongRecOn with
  | ind n ih =>
    intro hpos
    rcases Nat.lt_or_ge n 10 with hlt | hge
    · refine ⟨n.digitChar, [], ofNat_of_lt hlt, ?_, digitChar_ne_zero hpos hlt⟩
      exact isDigit_of_mem_ofNat (n := n) (by simp [ofNat_of_lt hlt])
    · obtain ⟨c, r, hfirst, hdigit, hc⟩ := ih (n / 10) (by omega) (by omega)
      refine ⟨c, r ++ [(n % 10).digitChar], ?_, hdigit, hc⟩
      rw [ofNat_of_le hge, hfirst]
      rfl

/-- A digit is the one of its value. -/
theorem digitChar_of_isDigit {c : Char} (h : c.isDigit = true) :
    c.toNat - '0'.toNat < 10 ∧ (c.toNat - '0'.toNat).digitChar = c := by
  obtain ⟨hlow, hhigh⟩ : 48 ≤ c.toNat ∧ c.toNat ≤ 57 := by
    simpa [Char.isDigit, ← Char.toNat_val, UInt32.le_iff_toNat_le] using h
  have hzero : '0'.toNat = 48 := rfl
  have hlt : c.toNat - '0'.toNat < 10 := by omega
  refine ⟨hlt, Char.toNat_inj.mp ?_⟩
  rw [Nat.toNat_digitChar_of_lt_ten hlt]
  omega

/-- The number that digits stand for behind those of another number. -/
def valueAfter (n : Nat) (s : List Char) : Nat :=
  s.foldl (fun n c => 10 * n + (c.toNat - '0'.toNat)) n

theorem decimalValue_eq (s : List Char) : decimalValue s = valueAfter 0 s := rfl

theorem valueAfter_nil (n : Nat) : valueAfter n [] = n := rfl

theorem valueAfter_cons (n : Nat) (c : Char) (s : List Char) :
    valueAfter n (c :: s) = valueAfter (10 * n + (c.toNat - '0'.toNat)) s := by
  rw [valueAfter, List.foldl_cons, valueAfter]

/-- Digits that are read go behind those of the number that was read before them. -/
theorem ofNat_valueAfter {s : List Char} (hs : ∀ c ∈ s, c.isDigit = true) {n : Nat}
    (hn : 0 < n) : ofNat (valueAfter n s) = ofNat n ++ s := by
  induction s generalizing n with
  | nil => rw [valueAfter_nil, List.append_nil]
  | cons c s ih =>
    obtain ⟨hc, hs⟩ := List.forall_mem_cons.mp hs
    obtain ⟨hlt, hchar⟩ := digitChar_of_isDigit hc
    rw [valueAfter_cons, ih hs (by omega)]
    generalize c.toNat - '0'.toNat = digit at hlt hchar
    have hquotient : (10 * n + digit) / 10 = n := by omega
    have hremainder : (10 * n + digit) % 10 = digit := by omega
    rw [ofNat_of_le (by omega), hquotient, hremainder, hchar, List.append_assoc,
      List.singleton_append]

/-- Digits are the numeral of their value, if they begin with a zero only as the one digit. -/
theorem ofNat_decimalValue {s : List Char} (hne : s ≠ []) (hs : ∀ c ∈ s, c.isDigit = true)
    (leading : s = ['0'] ∨ s.head? ≠ some '0') : ofNat (decimalValue s) = s := by
  rcases leading with rfl | hzero
  · rfl
  · obtain ⟨c, r, rfl⟩ := List.exists_cons_of_ne_nil hne
    obtain ⟨hc, hr⟩ := List.forall_mem_cons.mp hs
    obtain ⟨hlt, hchar⟩ := digitChar_of_isDigit hc
    have hpos : 0 < c.toNat - '0'.toNat := by
      refine Nat.pos_of_ne_zero fun h => hzero ?_
      rw [List.head?_cons, ← hchar, h]
      rfl
    have hread := ofNat_valueAfter hr hpos
    rw [ofNat_of_lt hlt, hchar, List.singleton_append] at hread
    rwa [decimalValue_eq, valueAfter_cons, Nat.mul_zero, Nat.zero_add]

end WideColumn.Text
