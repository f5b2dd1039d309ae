import WideColumn.Name.Case
import WideColumn.Proofs.Name.Inflection

/-!
# The last word of a name

A capital begins a word, and small letters go on with it. So a name that ends with a capital and
small letters ends with a word of the lists just if these letters are that word, or if the word is
longer and begins in front of them. Apart from such longer words nothing in front of the last word
has a say in its singular, and the capital stays.

Main definition: `Name.capitalize`.
Main result: `Name.singular_lastWord`.
-/

namespace WideColumn.Name

open Text

/-! ## Words of the lists -/

/-- A name that is a capital and small letters behind something, or such letters alone, ends with a
word that is no longer just if the word is these letters. -/
theorem endsWithWord_lastWord {front : List Char} {first : Char} {rest : List Char} {word : String}
    (hstart : front = [] ∨ first.isUpper = true) (hletter : first ≠ '_')
    (hrest : ∀ c ∈ rest, c.isLower = true) (hword : word.toList ≠ [])
    (hlength : word.toList.length ≤ (first :: rest).length) :
    endsWithWord (front ++ first :: rest) word =
      decide (word.toList = asciiLower (first :: rest)) := by
  unfold endsWithWord
  rw [endsWith_append front hlength]
  by_cases hsame : word.toList = asciiLower (first :: rest)
  · have hends : endsWith (first :: rest) word = true := by
      rw [endsWith, hsame]
      exact List.isSuffixOf_iff_suffix.mpr List.suffix_rfl
    rw [hends, hsame, length_asciiLower, wordStartsAt_append]
    rcases hstart with rfl | hcapital
    · simp
    · cases front.getLast? <;> simp [hcapital]
  · rw [decide_eq_false hsame, ← Bool.not_eq_true, Bool.and_eq_true]
    rintro ⟨hends, hbegins⟩
    -- A shorter word would begin between small letters.
    obtain ⟨stem, hstem⟩ := endsWith_iff.mp hends
    obtain ⟨x, y, hxy, -, hy⟩ := asciiLower_eq_append_iff.mp hstem
    have hlast : word.toList.length = y.length := by rw [← hy, length_asciiLower]
    have hx : x ≠ [] := by
      rintro rfl
      rw [List.nil_append] at hxy
      exact hsame (hxy ▸ hy.symm)
    obtain ⟨outer, before, rfl⟩ := (List.eq_nil_or_concat x).resolve_left hx
    obtain ⟨d, inner, rfl⟩ : ∃ d inner, y = d :: inner := by
      cases y with
      | nil => exact absurd hy.symm (by simpa using hword)
      | cons d inner => exact ⟨d, inner, rfl⟩
    have hd : d ∈ rest := by
      cases outer with
      | nil => simp [(List.cons.inj hxy).2]
      | cons c outer => simp [(List.cons.inj hxy).2]
    have hbefore : before ≠ '_' := by
      have hmem : before ∈ first :: rest := by simp [hxy]
      rcases List.mem_cons.mp hmem with rfl | hmem
      · exact hletter
      · rintro rfl
        exact absurd (hrest '_' hmem) (by decide)
    rw [hlast, hxy, ← List.append_assoc, wordStartsAt_append] at hbegins
    simp [isUpper_eq_false_of_isLower (hrest d hd), hbefore] at hbegins

/-! ## A capital in front -/

/-- The text with its first character in capital form. -/
def capitalize (s : String) : String := String.ofList (capitalized s.toList)

theorem capitalized_cons {c : Char} (h : c.isLower = true) (r : List Char) :
    capitalized (c :: r) = c.toUpper :: r := by
  have hascii : c.toNat < 128 := by
    rw [isLower_iff] at h
    omega
  rw [capitalized, upperChar_of_lt hascii, List.singleton_append]

section LastWord

variable {first : Char} {rest : List Char} (hfirst : first.isLower = true)
  (hrest : ∀ c ∈ rest, c.isLower = true)

include hfirst hrest

/-- A word is inflected alike with a capital behind something and without. -/
theorem inflection_lastWord {front : List Char}
    (hlonger : ∀ word ∈ listed, (first :: rest).length < word.toList.length →
      endsWithWord (front ++ first.toUpper :: rest) word = false)
    (hlong : front = [] ∨ 4 ≤ (first :: rest).length) :
    inflection (front ++ first.toUpper :: rest) = inflection (first :: rest) := by
  have hcapital : first.toUpper.isUpper = true := isUpper_toUpper hfirst
  have hfold : asciiLower (first.toUpper :: rest) = asciiLower (first :: rest) := by simp
  refine inflection_congr (fun word hword => ?_) ?_
  · have hnonempty := ne_nil_of_mem_listed hword
    by_cases hlength : word.toList.length ≤ (first :: rest).length
    · have hletter : first ≠ '_' := by
        rintro rfl
        exact absurd hfirst (by decide)
      have hcapitalLetter : first.toUpper ≠ '_' := by
        intro h
        rw [h] at hcapital
        exact absurd hcapital (by decide)
      rw [endsWithWord_lastWord (.inr hcapital) hcapitalLetter hrest hnonempty hlength, hfold,
        ← endsWithWord_lastWord (.inl rfl) hletter hrest hnonempty hlength, List.nil_append]
    · rw [hlonger word hword (Nat.lt_of_not_le hlength),
        endsWithWord_of_lt (Nat.lt_of_not_le hlength)]
  · rw [← inflectionByEnding_congr hfold]
    rcases hlong with rfl | hlong
    · rfl
    · exact inflectionByEnding_append front (.inl hlong)

/-- What replaces the end of a word leaves the capital in front, or takes it over. -/
theorem replaceEnding_lastWord (front : List Char) {i : Inflection}
    (fits : i.Fits (first :: rest)) :
    replaceEnding (front ++ first.toUpper :: rest) i.length i.replacement =
      front ++ capitalized (replaceEnding (first :: rest) i.length i.replacement) := by
  have hsmall : ∀ c ∈ first :: rest, c.isUpper = false := by
    rw [List.forall_mem_cons]
    exact ⟨isUpper_eq_false_of_isLower hfirst,
      fun c hc => isUpper_eq_false_of_isLower (hrest c hc)⟩
  have hle : i.length ≤ (first.toUpper :: rest).length := fits.le
  rw [replaceEnding_append front hle, replaceEnding_of_noCapital hsmall, replaceEnding,
    show (first.toUpper :: rest).length = (first :: rest).length from rfl]
  congr 1
  cases hstem : (first :: rest).length - i.length with
  | zero =>
    -- The whole word is replaced.
    rw [List.take_zero, List.take_zero, List.drop_zero, List.nil_append, List.nil_append]
    cases hreplacement : i.replacement.toList with
    | nil => exact inCaseOf_nil _
    | cons c r =>
      have hc : c.isLower = true := fits.small c (by simp [hreplacement])
      rw [inCaseOf_capital (isUpper_toUpper hfirst) hrest, capitalized_cons hc]
  | succ k =>
    rw [List.take_succ_cons, List.take_succ_cons, List.drop_succ_cons, List.cons_append,
      List.cons_append, capitalized_cons hfirst, inCaseOf_of_noCapital]
    intro c hc
    exact isUpper_eq_false_of_isLower (hrest c (List.mem_of_mem_drop hc))

/-- The singular of a name is that of its last word behind what stands in front. -/
theorem singularChars_lastWord {front : List Char}
    (hlonger : ∀ word ∈ listed, (first :: rest).length < word.toList.length →
      endsWithWord (front ++ first.toUpper :: rest) word = false)
    (hlong : front = [] ∨ 4 ≤ (first :: rest).length) :
    singularChars (front ++ first.toUpper :: rest) =
      front ++ capitalized (singularChars (first :: rest)) := by
  rw [singularChars_eq, singularChars_eq, inflection_lastWord hfirst hrest hlonger hlong]
  cases hinflection : inflection (first :: rest) with
  | none => rw [inflected, inflected, capitalized_cons hfirst]
  | some i => exact replaceEnding_lastWord hfirst hrest front (fits_inflection hinflection)

end LastWord

/-! ## Names -/

/-- The singular of a word that begins with a capital is the singular of the word with a capital in
front, and whatever stands in front of such a word of four letters or more stays, unless the lists
have a longer word that the name ends with. -/
theorem singular_lastWord {w : String} (hne : w ≠ "") (hsmall : ∀ c ∈ w.toList, c.isLower = true) :
    singular (capitalize w) = capitalize (singular w) ∧
      ∀ p : String, 4 ≤ w.length →
        (∀ word ∈ listed, w.length < word.length →
          endsWithWord (p ++ capitalize w).toList word = false) →
        singular (p ++ capitalize w) = p ++ capitalize (singular w) := by
  obtain ⟨first, rest, hw⟩ : ∃ first rest, w.toList = first :: rest := by
    cases hw : w.toList with
    | nil => exact absurd (String.toList_inj.mp (hw.trans String.toList_empty.symm)) hne
    | cons first rest => exact ⟨first, rest, rfl⟩
  rw [hw, List.forall_mem_cons] at hsmall
  obtain ⟨hfirst, hrest⟩ := hsmall
  have hcapital : (capitalize w).toList = first.toUpper :: rest := by
    rw [capitalize, String.toList_ofList, hw, capitalized_cons hfirst]
  have hsingular : (capitalize (singular w)).toList =
      capitalized (singularChars (first :: rest)) := by
    rw [capitalize, singular, String.toList_ofList, String.toList_ofList, hw]
  constructor
  · rw [← String.toList_inj, singular, String.toList_ofList, hcapital, hsingular]
    have hlonger : ∀ word ∈ listed, (first :: rest).length < word.toList.length →
        endsWithWord ([] ++ first.toUpper :: rest) word = false :=
      fun _ _ hlength => endsWithWord_of_lt hlength
    exact singularChars_lastWord hfirst hrest hlonger (.inl rfl)
  · intro p hlong hlonger
    rw [← String.length_toList, hw] at hlong
    have hlonger : ∀ word ∈ listed, (first :: rest).length < word.toList.length →
        endsWithWord (p.toList ++ first.toUpper :: rest) word = false := by
      intro word hword hlength
      rw [← hcapital, ← String.toList_append]
      refine hlonger word hword ?_
      rwa [← String.length_toList, ← String.length_toList, hw]
    rw [← String.toList_inj, singular, String.toList_ofList, String.toList_append,
      String.toList_append, hcapital, hsingular]
    exact singularChars_lastWord hfirst hrest hlonger (.inr hlong)

/-- The lists have a shorter word that the last letters of these names are, but it does not begin
with a capital. -/
theorem singular_lastWord_women :
    singular (capitalize "women") = "Woman" ∧
      singular ("Été" ++ capitalize "women") = "ÉtéWoman" := by
  have hsmall : ∀ c ∈ "women".toList, c.isLower = true := List.all_eq_true.mp (by decide)
  have hsingular : capitalize (singular "women") = "Woman" := by decide
  obtain ⟨halone, hbehind⟩ := singular_lastWord (by decide) hsmall
  have hlonger : ∀ word ∈ listed, "women".length < word.length →
      endsWithWord ("Été" ++ capitalize "women").toList word = false := by decide
  exact ⟨halone.trans hsingular,
    (hbehind "Été" (by decide) hlonger).trans (by rw [hsingular]; rfl)⟩

end WideColumn.Name
