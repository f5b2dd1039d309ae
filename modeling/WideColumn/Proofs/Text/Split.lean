import WideColumn.Text.Split

/-!
# Splitting and joining texts

Splitting at a separator is splitting as lists are split, and it goes along with putting texts
together: the parts of two texts with a separator between them are the parts of the one and then
those of the other.

Main results: `splitAt_append_separator`, `intercalate_append`.
-/

namespace WideColumn.Text

/-! ## Joined parts -/

section Joined

variable {α : Type}

theorem intercalate_append (separator : List α) {l m : List (List α)} (hl : l ≠ [])
    (hm : m ≠ []) :
    separator.intercalate (l ++ m) =
      separator.intercalate l ++ separator ++ separator.intercalate m := by
  induction l with
  | nil => exact absurd rfl hl
  | cons x l ih =>
    cases l with
    | nil =>
      rw [List.singleton_append, List.intercalate_cons_of_ne_nil hm, List.intercalate_singleton]
    | cons y l =>
      have hrest := ih (List.cons_ne_nil y l)
      rw [List.cons_append] at hrest
      rw [List.cons_append, List.cons_append, List.intercalate_cons_cons, hrest,
        List.intercalate_cons_cons]
      simp only [List.append_assoc]

theorem intercalate_sublist (separator : List α) {l l' : List (List α)}
    (h : l.Sublist l') : (separator.intercalate l).Sublist (separator.intercalate l') := by
  induction h with
  | slnil => exact List.Sublist.refl _
  | @cons l l' x h ih =>
    by_cases hl' : l' = []
    · rw [hl'] at h
      rw [List.sublist_nil.1 h]
      exact List.nil_sublist _
    · rw [List.intercalate_cons_of_ne_nil hl']
      exact ih.trans (List.sublist_append_right _ _)
  | @cons_cons l l' x h ih =>
    by_cases hl : l = []
    · rw [hl, List.intercalate_singleton]
      by_cases hl' : l' = []
      · simp [hl']
      · rw [List.intercalate_cons_of_ne_nil hl', List.append_assoc]
        exact List.sublist_append_left _ _
    · have hl' : l' ≠ [] := fun e => hl (List.sublist_nil.1 (e ▸ h))
      rw [List.intercalate_cons_of_ne_nil hl, List.intercalate_cons_of_ne_nil hl']
      exact (List.Sublist.refl _).append ih

end Joined

/-! ## Parts -/

theorem splitAt_eq_splitOn (separator : Char) (s : List Char) :
    splitAt separator s = s.splitOn separator := by
  induction s with
  | nil => rfl
  | cons c r ih =>
    rw [splitAt, List.splitOn_cons_eq_if_modifyHead, ih]
    by_cases h : c = separator
    · simp [h]
    · rw [if_neg h, if_neg (by simpa using h)]
      cases hr : r.splitOn separator with
      | nil => exact absurd hr (by simp)
      | cons part rest => rfl

theorem not_mem_of_mem_splitAt {separator : Char} {s part : List Char}
    (h : part ∈ splitAt separator s) : separator ∉ part := by
  induction s generalizing part with
  | nil => simp [splitAt] at h; simp [h]
  | cons c r ih =>
    rw [splitAt] at h
    split at h
    case isTrue =>
      rcases List.mem_cons.1 h with rfl | h
      · simp
      · exact ih h
    case isFalse hc =>
      split at h
      case _ => simp [List.mem_singleton.1 h, Ne.symm hc]
      case _ first rest he =>
        rcases List.mem_cons.1 h with rfl | h
        · have := ih (he ▸ List.mem_cons_self)
          simp [this, Ne.symm hc]
        · exact ih (he ▸ List.mem_cons_of_mem _ h)

theorem sublist_of_mem_splitAt {separator : Char} {s part : List Char}
    (h : part ∈ splitAt separator s) : part.Sublist s := by
  have hjoined := intercalate_sublist [separator] (List.singleton_sublist.mpr h)
  rwa [List.intercalate_singleton, intercalate_splitAt] at hjoined

theorem splitAt_append_separator (separator : Char) (s t : List Char) :
    splitAt separator (s ++ separator :: t) = splitAt separator s ++ splitAt separator t := by
  rw [splitAt_eq_splitOn, splitAt_eq_splitOn, splitAt_eq_splitOn, List.splitOn_append_cons_self]

end WideColumn.Text
