import WideColumn.Text.Ascii
import WideColumn.Text.Blank

/-!
# ASCII case and the other classes of characters

Folding the case of ASCII letters moves code points 65–90 to 97–122 and nothing else. This module
reads everything else off that fact: folding keeps blanks, and it keeps every character that is no
letter, so it commutes with whatever looks for blanks and brackets only.
-/

namespace WideColumn.Text

/-! ## Code points -/

theorem toNat_toLower (c : Char) :
    c.toLower.toNat = if 65 ≤ c.toNat ∧ c.toNat ≤ 90 then c.toNat + 32 else c.toNat := by
  unfold Char.toLower
  split
  · rename_i h
    have hlo : 65 ≤ c.toNat := h.1
    have hhi : c.toNat ≤ 90 := h.2
    rw [if_pos ⟨hlo, hhi⟩, Char.toNat_mk, UInt32.toNat_add]
    change (c.toNat + 32) % 4294967296 = c.toNat + 32
    omega
  · rename_i h
    rw [if_neg]
    rintro ⟨hlo, hhi⟩
    exact h ⟨hlo, hhi⟩

theorem toNat_toUpper (c : Char) :
    c.toUpper.toNat = if 97 ≤ c.toNat ∧ c.toNat ≤ 122 then c.toNat - 32 else c.toNat := by
  unfold Char.toUpper
  split
  · rename_i h
    have hlo : 97 ≤ c.toNat := h.1
    have hhi : c.toNat ≤ 122 := h.2
    rw [if_pos ⟨hlo, hhi⟩, Char.toNat_mk, UInt32.toNat_add]
    change (c.toNat + 4294967264) % 4294967296 = c.toNat - 32
    omega
  · rename_i h
    rw [if_neg]
    rintro ⟨hlo, hhi⟩
    exact h ⟨hlo, hhi⟩

theorem isLower_iff {c : Char} : c.isLower = true ↔ 97 ≤ c.toNat ∧ c.toNat ≤ 122 := by
  have bounds : c.isLower = (decide (97 ≤ c.val) && decide (c.val ≤ 122)) := rfl
  simp only [bounds, Bool.and_eq_true, decide_eq_true_eq]
  exact Iff.rfl

theorem isUpper_iff {c : Char} : c.isUpper = true ↔ 65 ≤ c.toNat ∧ c.toNat ≤ 90 := by
  have bounds : c.isUpper = decide (65 ≤ c.val ∧ c.val ≤ 90) := rfl
  simp only [bounds, decide_eq_true_eq]
  exact Iff.rfl

theorem isUpper_eq_false_of_isLower {c : Char} (h : c.isLower = true) : c.isUpper = false := by
  rw [isLower_iff] at h
  rw [← Bool.not_eq_true, isUpper_iff]
  omega

theorem isLower_eq_false_of_isUpper {c : Char} (h : c.isUpper = true) : c.isLower = false := by
  rw [isUpper_iff] at h
  rw [← Bool.not_eq_true, isLower_iff]
  omega

theorem isUpper_toUpper {c : Char} (h : c.isLower = true) : c.toUpper.isUpper = true := by
  rw [isLower_iff] at h
  rw [isUpper_iff, toNat_toUpper, if_pos h]
  omega

theorem isLower_toLower {c : Char} (h : c.isUpper = true) : c.toLower.isLower = true := by
  rw [isUpper_iff] at h
  rw [isLower_iff, toNat_toLower, if_pos h]
  omega

theorem toUpper_eq_self {c : Char} (h : c.isLower = false) : c.toUpper = c := by
  rw [← Bool.not_eq_true, isLower_iff] at h
  rw [← Char.toNat_inj, toNat_toUpper, if_neg h]

theorem toLower_eq_self {c : Char} (h : c.isUpper = false) : c.toLower = c := by
  rw [← Bool.not_eq_true, isUpper_iff] at h
  rw [← Char.toNat_inj, toNat_toLower, if_neg h]

theorem isAlpha_eq (c : Char) : c.isAlpha = (c.isUpper || c.isLower) := rfl

/-- The small letters are the letters that folding leaves alone. -/
theorem isLower_iff_isAlpha {c : Char} : c.isLower = true ↔ c.isAlpha = true ∧ c.toLower = c := by
  rw [isAlpha_eq, Bool.or_eq_true]
  constructor
  · intro h
    exact ⟨.inr h, toLower_eq_self (isUpper_eq_false_of_isLower h)⟩
  · rintro ⟨hupper | hlower, hfold⟩
    · rw [← hfold]
      exact isLower_toLower hupper
    · exact hlower

@[simp] theorem toLower_toUpper (c : Char) : c.toUpper.toLower = c.toLower := by
  rw [← Char.toNat_inj, toNat_toLower, toNat_toLower, toNat_toUpper]
  by_cases h : 97 ≤ c.toNat ∧ c.toNat ≤ 122
  · rw [if_pos h, if_pos (by omega), if_neg (by omega)]
    omega
  · rw [if_neg h]

theorem toUpper_toLower {c : Char} (h : c.isUpper = true) : c.toLower.toUpper = c := by
  rw [isUpper_iff] at h
  rw [← Char.toNat_inj, toNat_toUpper, toNat_toLower, if_pos h, if_pos (by omega)]
  omega

/-- A character is folded from itself and from its capital only. -/
theorem eq_or_eq_toUpper {c d : Char} (h : c.toLower = d) : c = d ∨ c = d.toUpper := by
  cases hc : c.isUpper with
  | true =>
    right
    rw [isUpper_iff] at hc
    rw [← h, ← Char.toNat_inj, toNat_toUpper, toNat_toLower, if_pos hc, if_pos (by omega)]
    omega
  | false => exact .inl ((toLower_eq_self hc).symm.trans h)

/-- A character outside the letters is folded from itself only. -/
theorem toLower_eq_iff {c d : Char} (h : d.toNat < 65 ∨ 90 < d.toNat ∧ d.toNat < 97) :
    c.toLower = d ↔ c = d := by
  rw [← Char.toNat_inj, ← Char.toNat_inj, toNat_toLower]
  split <;> omega

@[simp] theorem toLower_toLower (c : Char) : c.toLower.toLower = c.toLower := by
  rw [← Char.toNat_inj, toNat_toLower, toNat_toLower]
  split
  · rw [if_neg (by omega)]
  · rfl

@[simp] theorem asciiLower_asciiLower (s : List Char) :
    asciiLower (asciiLower s) = asciiLower s := by
  simp [asciiLower, Function.comp_def]

@[simp] theorem asciiLower_asciiUpper (s : List Char) :
    asciiLower (asciiUpper s) = asciiLower s := by
  simp [asciiLower, asciiUpper, Function.comp_def]

theorem asciiLower_trans {s t u : List Char} (hst : asciiLower s = t) (htu : asciiLower t = u) :
    asciiLower s = u := by
  rw [← htu, ← hst, asciiLower_asciiLower]

theorem toNat_lt_of_isDigit {c : Char} (h : c.isDigit = true) : c.toNat < 65 := by
  rw [Char.isDigit_iff_toNat] at h
  exact Nat.lt_of_le_of_lt h.2 (by decide)

theorem asciiLower_eq_self {s : List Char} (hs : ∀ c ∈ s, c.toNat < 65) : asciiLower s = s := by
  unfold asciiLower
  rw [List.map_congr_left (g := id), List.map_id]
  intro c hc
  exact (toLower_eq_iff (.inl (hs c hc))).mpr rfl

/-- A text whose characters all come before the letters is folded from itself only. -/
theorem eq_of_asciiLower_eq {s : List Char} (hs : ∀ c ∈ s, c.toNat < 65) :
    ∀ {raw : List Char}, asciiLower raw = s → raw = s := by
  induction s with
  | nil => intro raw h; exact List.map_eq_nil_iff.mp h
  | cons d r ih =>
    intro raw h
    obtain ⟨c, y, rfl, hc, hy⟩ := List.map_eq_cons_iff.mp h
    rw [(toLower_eq_iff (.inl (hs d List.mem_cons_self))).mp hc,
      ih (fun e he => hs e (List.mem_cons_of_mem d he)) hy]

/-! ## Blanks -/

theorem isBlank_iff {c : Char} :
    isBlank c = true ↔ ∃ r ∈ blanks.ranges, r.1 ≤ c.toNat ∧ c.toNat ≤ r.2 :=
  CodePoints.contains_iff

theorem not_isBlank_of_isDigit {c : Char} (h : c.isDigit = true) : isBlank c = false := by
  rw [Char.isDigit_iff_toNat] at h
  have lo : 48 ≤ c.toNat := h.1
  have hi : c.toNat ≤ 57 := h.2
  rw [← Bool.not_eq_true, isBlank_iff]
  simp only [blanks, List.mem_cons, List.not_mem_nil, or_false, exists_eq_or_imp, exists_eq_left]
  omega

/-- No blank is an ASCII letter, so folding the case keeps blanks and makes none. -/
@[simp] theorem isBlank_toLower (c : Char) : isBlank c.toLower = isBlank c := by
  rw [Bool.eq_iff_iff, isBlank_iff, isBlank_iff, toNat_toLower]
  simp only [blanks, List.mem_cons, List.not_mem_nil, or_false, exists_eq_or_imp, exists_eq_left]
  split <;> omega

@[simp] theorem allBlank_asciiLower (s : List Char) : allBlank (asciiLower s) = allBlank s := by
  simp [allBlank, asciiLower, Function.comp_def]

theorem asciiLower_eq_append_iff {s a b : List Char} :
    asciiLower s = a ++ b ↔ ∃ x y, s = x ++ y ∧ asciiLower x = a ∧ asciiLower y = b :=
  List.map_eq_append_iff

theorem asciiLower_eq_cons_iff {s b : List Char} {d : Char} :
    asciiLower s = d :: b ↔ ∃ c y, s = c :: y ∧ c.toLower = d ∧ asciiLower y = b :=
  List.map_eq_cons_iff

end WideColumn.Text
