import Mathlib.Data.List.Chain
import WideColumn.Name.Case
import WideColumn.Proofs.Text.AsciiCase

/-!
# Undoing camel case

Camel case takes an underscore and the small letter after it for a capital. Writing each capital as
an underscore and a small letter again undoes that, so nothing of a name is lost but the difference
between `_x` and `X`.

Main definition: `Name.snakeChars`.
Main results: `Name.camelChars_eq_iff`, `Name.camelChars_camelChars`, `Name.camelChars_inj`,
`Name.isChain_camelChars`.
-/

namespace WideColumn.Name

open Text

/-- The text with each ASCII capital written as an underscore and the small letter. -/
def snakeChars (s : List Char) : List Char :=
  s.flatMap fun c => if c.isUpper then ['_', c.toLower] else [c]

@[simp] theorem snakeChars_nil : snakeChars [] = [] := rfl

theorem snakeChars_cons_upper {c : Char} (h : c.isUpper = true) (s : List Char) :
    snakeChars (c :: s) = '_' :: c.toLower :: snakeChars s := by
  simp [snakeChars, h]

theorem snakeChars_cons_other {c : Char} (h : c.isUpper = false) (s : List Char) :
    snakeChars (c :: s) = c :: snakeChars s := by
  simp [snakeChars, h]

/-- A text without capitals stays as it is. -/
theorem snakeChars_of_noCapital {s : List Char} (h : ∀ c ∈ s, c.isUpper = false) :
    snakeChars s = s := by
  induction s with
  | nil => rfl
  | cons c s ih =>
    rw [List.forall_mem_cons] at h
    rw [snakeChars_cons_other h.1, ih h.2]

/-- What a text begins with does not begin with a small letter where the text did not. -/
theorem isLower_of_head?_snakeChars {s : List Char} (h : ∀ d ∈ s.head?, d.isLower = false) :
    ∀ d ∈ (snakeChars s).head?, d.isLower = false := by
  cases s with
  | nil => exact h
  | cons c s =>
    cases hc : c.isUpper with
    | true =>
      rw [snakeChars_cons_upper hc]
      intro d hd
      obtain rfl := Option.some.inj hd
      decide
    | false =>
      rw [snakeChars_cons_other hc]
      exact h

/-! ## The rule of camel case -/

theorem camelChars_small {d : Char} (h : d.isLower = true) (s : List Char) :
    camelChars ('_' :: d :: s) = d.toUpper :: camelChars s := by
  rw [camelChars, if_pos (by simp [h])]

/-- An underscore before anything but a small letter stays. -/
theorem camelChars_underscore {s : List Char} (h : ∀ d ∈ s.head?, d.isLower = false) :
    camelChars ('_' :: s) = '_' :: camelChars s := by
  cases s with
  | nil => rfl
  | cons d s => rw [camelChars, if_neg (by simp [h d rfl])]

theorem camelChars_other {c : Char} (h : c ≠ '_') (s : List Char) :
    camelChars (c :: s) = c :: camelChars s := by
  cases s with
  | nil => rfl
  | cons d s => rw [camelChars, if_neg (by simp [h])]

/-! ## The way back -/

/-- Camel case can be undone up to the difference between a capital and an underscore with a small
letter. -/
theorem snakeChars_camelChars (s : List Char) : snakeChars (camelChars s) = snakeChars s := by
  induction s using camelChars.induct with
  | case1 => rfl
  | case2 c => rfl
  | case3 c d r h ih =>
    obtain ⟨hc, hd⟩ := Bool.and_eq_true_iff.mp h
    obtain rfl : c = '_' := of_decide_eq_true hc
    have hsmall : d.isUpper = false := isUpper_eq_false_of_isLower hd
    rw [camelChars, if_pos h, snakeChars_cons_upper (isUpper_toUpper hd), toLower_toUpper,
      toLower_eq_self hsmall, ih, snakeChars_cons_other (by decide), snakeChars_cons_other hsmall]
  | case4 c d r h ih =>
    rw [camelChars, if_neg h]
    cases hc : c.isUpper with
    | true => rw [snakeChars_cons_upper hc, snakeChars_cons_upper hc, ih]
    | false => rw [snakeChars_cons_other hc, snakeChars_cons_other hc, ih]

/-- Camel case does not see the difference between a capital and an underscore with a small
letter. -/
theorem camelChars_snakeChars (s : List Char) : camelChars (snakeChars s) = camelChars s := by
  induction s using camelChars.induct with
  | case1 => rfl
  | case2 c =>
    cases hc : c.isUpper with
    | true =>
      rw [snakeChars_cons_upper hc, snakeChars_nil, camelChars_small (isLower_toLower hc),
        toUpper_toLower hc]
      rfl
    | false => rw [snakeChars_cons_other hc, snakeChars_nil]
  | case3 c d r h ih =>
    obtain ⟨hc, hd⟩ := Bool.and_eq_true_iff.mp h
    obtain rfl : c = '_' := of_decide_eq_true hc
    rw [snakeChars_cons_other (by decide), snakeChars_cons_other (isUpper_eq_false_of_isLower hd),
      camelChars_small hd, camelChars_small hd, ih]
  | case4 c d r h ih =>
    cases hc : c.isUpper with
    | true =>
      have hne : c ≠ '_' := by
        rintro rfl
        exact absurd hc (by decide)
      rw [snakeChars_cons_upper hc, camelChars_small (isLower_toLower hc), toUpper_toLower hc, ih,
        camelChars_other hne]
    | false =>
      rw [snakeChars_cons_other hc]
      by_cases hne : c = '_'
      · subst hne
        have hd : ∀ e ∈ (d :: r).head?, e.isLower = false := by
          intro e he
          obtain rfl := Option.some.inj he
          simpa using h
        rw [camelChars_underscore (isLower_of_head?_snakeChars hd), ih, camelChars_underscore hd]
      · rw [camelChars_other hne, ih, camelChars_other hne]

/-- Which texts have one camel case. -/
theorem camelChars_eq_iff {s t : List Char} :
    camelChars s = camelChars t ↔ snakeChars s = snakeChars t := by
  constructor
  · intro h
    rw [← snakeChars_camelChars s, h, snakeChars_camelChars]
  · intro h
    rw [← camelChars_snakeChars s, h, camelChars_snakeChars]

theorem camelChars_camelChars (s : List Char) : camelChars (camelChars s) = camelChars s :=
  camelChars_eq_iff.mpr (snakeChars_camelChars s)

/-- Names without capitals are told apart by their camel case. -/
theorem camelChars_inj {s t : List Char} (hs : ∀ c ∈ s, c.isUpper = false)
    (ht : ∀ c ∈ t, c.isUpper = false) (h : camelChars s = camelChars t) : s = t := by
  rw [← snakeChars_of_noCapital hs, ← snakeChars_of_noCapital ht, ← snakeChars_camelChars s, h,
    snakeChars_camelChars]

/-! ## What camel case looks like -/

/-- A small letter in front of the camel case was in front of the name. -/
theorem isLower_of_head?_camelChars {s : List Char} (h : ∀ d ∈ s.head?, d.isLower = false) :
    ∀ d ∈ (camelChars s).head?, d.isLower = false := by
  match s, h with
  | [], h | [_], h => exact h
  | c :: d :: r, h =>
    rw [camelChars]
    split
    · rename_i hsmall
      intro e he
      obtain rfl := Option.some.inj he
      exact isLower_eq_false_of_isUpper (isUpper_toUpper (Bool.and_eq_true_iff.mp hsmall).2)
    · exact h

/-- In camel case no underscore stands before a small letter. -/
theorem isChain_camelChars (s : List Char) :
    (camelChars s).IsChain fun c d => c = '_' → d.isLower = false := by
  induction s using camelChars.induct with
  | case1 => exact .nil
  | case2 c => exact .singleton c
  | case3 c d r h ih =>
    rw [camelChars, if_pos h]
    refine List.isChain_cons.mpr ⟨fun e _ hunder => ?_, ih⟩
    -- A capital is no underscore.
    have hcapital := isUpper_toUpper (Bool.and_eq_true_iff.mp h).2
    rw [hunder] at hcapital
    exact absurd hcapital (by decide)
  | case4 c d r h ih =>
    rw [camelChars, if_neg h]
    refine List.isChain_cons.mpr ⟨fun e he hunder => ?_, ih⟩
    refine isLower_of_head?_camelChars (s := d :: r) (fun x hx => ?_) e he
    obtain rfl := Option.some.inj hx
    simpa [hunder] using h

end WideColumn.Name
