import Mathlib.Data.List.TakeWhile
import WideColumn.Proofs.Text.AsciiCase

/-!
# Trimming

Trimming splits a text into blanks, a core and blanks. The core has no blank at its ends, and it
stays the same when more blanks are put around the text.
-/

namespace WideColumn.Text

theorem allBlank_iff {s : List Char} : allBlank s = true ↔ ∀ c ∈ s, isBlank c = true :=
  List.all_eq_true

/-! ## Blanks around a text -/

theorem trimStart_append {b : List Char} (hb : allBlank b = true) (s : List Char) :
    trimStart (b ++ s) = trimStart s :=
  List.dropWhile_append_of_pos (allBlank_iff.mp hb)

theorem trimEnd_append {a : List Char} (ha : allBlank a = true) (s : List Char) :
    trimEnd (s ++ a) = trimEnd s := by
  unfold trimEnd
  rw [List.reverse_append, List.dropWhile_append_of_pos]
  intro c hc
  exact allBlank_iff.mp ha c (List.mem_reverse.mp hc)

theorem trimStart_of_allBlank {s : List Char} (h : allBlank s = true) : trimStart s = [] := by
  have := trimStart_append h []
  rwa [List.append_nil] at this

/-- Blanks around a text do not change its core. -/
theorem trim_pad {b a : List Char} (hb : allBlank b = true) (ha : allBlank a = true)
    (s : List Char) : trim (b ++ s ++ a) = trim s := by
  unfold trim
  rw [List.append_assoc, trimStart_append hb]
  unfold trimStart
  rw [List.dropWhile_append]
  split
  · -- Nothing but blanks: the blanks at the end go with those in front.
    rename_i hs
    rw [List.isEmpty_iff] at hs
    rw [hs, List.dropWhile_eq_nil_iff.mpr (allBlank_iff.mp ha)]
  · exact trimEnd_append ha _

/-! ## The core -/

/-- A text is its core between blanks. -/
theorem exists_pad_trim (s : List Char) :
    ∃ b a, allBlank b = true ∧ allBlank a = true ∧ s = b ++ trim s ++ a := by
  refine ⟨s.takeWhile isBlank, ((trimStart s).reverse.takeWhile isBlank).reverse, ?_, ?_, ?_⟩
  · exact allBlank_iff.mpr fun c hc => List.mem_takeWhile_imp hc
  · exact allBlank_iff.mpr fun c hc => List.mem_takeWhile_imp (List.mem_reverse.mp hc)
  · unfold trim trimEnd
    rw [List.append_assoc, ← List.reverse_append, List.takeWhile_append_dropWhile,
      List.reverse_reverse]
    exact List.takeWhile_append_dropWhile.symm

/-- A text without a blank at its ends is its own core. -/
theorem trim_eq_self {s : List Char} (hhead : ∀ c ∈ s.head?, isBlank c = false)
    (hlast : ∀ c ∈ s.getLast?, isBlank c = false) : trim s = s := by
  have hstart : trimStart s = s := by
    cases s with
    | nil => rfl
    | cons c r => exact List.dropWhile_cons_of_neg (by simpa using hhead c rfl)
  unfold trim trimEnd
  rw [hstart]
  cases hs : s.reverse with
  | nil => rw [← List.reverse_reverse s, hs]; rfl
  | cons c r =>
    have hc : isBlank c = false := hlast c (by rw [← List.head?_reverse, hs]; rfl)
    rw [List.dropWhile_cons_of_neg (by simpa using hc), ← hs, List.reverse_reverse]

theorem trim_trim (s : List Char) : trim (trim s) = trim s := by
  obtain ⟨b, a, hb, ha, hs⟩ := exists_pad_trim s
  calc trim (trim s) = trim (b ++ trim s ++ a) := (trim_pad hb ha _).symm
    _ = trim s := by rw [← hs]

/-- The core does not begin with a blank: trimming it would make it shorter. -/
theorem head?_trim (s : List Char) : ∀ c ∈ (trim s).head?, isBlank c = false := by
  intro c hc
  obtain ⟨r, hr⟩ := List.head?_eq_some_iff.mp hc
  rw [← Bool.not_eq_true]
  intro blank
  have front : trim (trim s) = trim r := by
    rw [hr]
    simpa using trim_pad (b := [c]) (a := []) (by simpa [allBlank] using blank) rfl r
  have short := length_trim_le r
  rw [← front, trim_trim, hr, List.length_cons] at short
  omega

theorem trim_eq_nil_iff {s : List Char} : trim s = [] ↔ allBlank s = true := by
  constructor
  · intro h
    obtain ⟨b, a, hb, ha, hs⟩ := exists_pad_trim s
    rw [hs, h, allBlank_iff]
    intro c hc
    rcases List.mem_append.mp hc with hc | hc
    · rw [List.append_nil] at hc
      exact allBlank_iff.mp hb c hc
    · exact allBlank_iff.mp ha c hc
  · intro h
    unfold trim
    rw [trimStart_of_allBlank h]
    rfl

/-- Folding the case before or after trimming makes no difference. -/
theorem trim_asciiLower (s : List Char) : trim (asciiLower s) = asciiLower (trim s) := by
  have hcomp : isBlank ∘ Char.toLower = isBlank := funext isBlank_toLower
  unfold trim trimEnd trimStart asciiLower
  rw [List.dropWhile_map, hcomp, ← List.map_reverse, List.dropWhile_map, hcomp, List.map_reverse]

end WideColumn.Text
