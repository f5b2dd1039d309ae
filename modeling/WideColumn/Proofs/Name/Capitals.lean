import WideColumn.Proofs.Name.Alphabet
import WideColumn.Proofs.Name.LastWord

/-!
# Names in capitals

Every letter of a name in capitals begins a word, so the lists are searched for any end of such a
name, where in small letters the name itself has to be listed. The singular in capitals comes out
just if that makes no difference: the name is listed, or the endings give each listed word at its
end the singular that the word has.

Main definition: `Name.capitals`.
Main result: `Name.singular_capitals_iff`.
-/

namespace WideColumn.Name

open Text

/-! ## Small letters and capitals -/

/-- A text of small ASCII letters. -/
def IsSmall (s : List Char) : Prop := Within Char.isLower s

instance (s : List Char) : Decidable (IsSmall s) :=
  decidable_of_iff (s.all Char.isLower = true) List.all_eq_true

theorem IsSmall.of_append_left {s t : List Char} (h : IsSmall (s ++ t)) : IsSmall s :=
  Within.of_sublist (List.sublist_append_left s t) h

theorem IsSmall.asciiLower_eq {s : List Char} (h : IsSmall s) : asciiLower s = s := by
  have same : ∀ c ∈ s, c.toLower = id c :=
    fun c hc => toLower_eq_self (isUpper_eq_false_of_isLower (h c hc))
  rw [asciiLower, List.map_congr_left same, List.map_id]

theorem IsSmall.isUpper_of_mem_asciiUpper {s : List Char} (h : IsSmall s) :
    ∀ c ∈ asciiUpper s, c.isUpper = true := by
  intro c hc
  obtain ⟨d, hd, rfl⟩ := List.mem_map.mp hc
  exact isUpper_toUpper (h d hd)

theorem length_asciiUpper (s : List Char) : (asciiUpper s).length = s.length := List.length_map _

/-! ## Words of the lists -/

/-- A name in small letters ends with no word but itself. -/
theorem IsSmall.endsWithWord_eq {name : List Char} (h : IsSmall name) {word : String}
    (hword : word.toList ≠ []) : endsWithWord name word = decide (word.toList = name) := by
  by_cases hlength : word.toList.length ≤ name.length
  · cases name with
    | nil => exact absurd (List.eq_nil_of_length_eq_zero (Nat.le_zero.mp hlength)) hword
    | cons first rest =>
      have hletter : first ≠ '_' := by
        rintro rfl
        exact absurd (h '_' List.mem_cons_self) (by decide)
      have hrest : ∀ c ∈ rest, c.isLower = true := fun c hc => h c (List.mem_cons_of_mem first hc)
      rw [← List.nil_append (first :: rest),
        endsWithWord_lastWord (.inl rfl) hletter hrest hword hlength, h.asciiLower_eq,
        List.nil_append]
  · rw [endsWithWord_of_lt (Nat.lt_of_not_le hlength), eq_comm, decide_eq_false_iff_not]
    rintro rfl
    exact hlength (Nat.le_refl _)

/-- A name in capitals ends with each word that its letters end with. -/
theorem endsWithWord_of_capitals {name : List Char} (h : ∀ c ∈ name, c.isUpper = true)
    {word : String} (hword : word.toList ≠ []) : endsWithWord name word = endsWith name word := by
  unfold endsWithWord
  cases hends : endsWith name word with
  | false => rfl
  | true =>
    obtain ⟨stem, hstem⟩ := endsWith_iff.mp hends
    obtain ⟨x, y, rfl, -, hy⟩ := asciiLower_eq_append_iff.mp hstem
    obtain ⟨d, inner, rfl⟩ : ∃ d inner, y = d :: inner := by
      cases y with
      | nil => exact absurd hy.symm hword
      | cons d inner => exact ⟨d, inner, rfl⟩
    have hd : d.isUpper = true := h d (by simp)
    rw [← hy, length_asciiLower, wordStartsAt_append]
    cases x.getLast? <;> simp [hd]

/-- Case makes no difference to the endings of a name. -/
theorem endsWith_asciiUpper (name : List Char) : endsWith (asciiUpper name) = endsWith name :=
  endsWith_congr (asciiLower_asciiUpper name)

/-! ## Replacements -/

/-- What replaces capitals is in capitals. -/
theorem IsSmall.replaceEnding_asciiUpper {name : List Char} (h : IsSmall name) {i : Inflection}
    (fits : i.Fits name) :
    replaceEnding (asciiUpper name) i.length i.replacement =
      asciiUpper (replaceEnding name i.length i.replacement) := by
  have hremoved : ((asciiUpper name).drop (name.length - i.length)).length = i.length := by
    rw [List.length_drop, length_asciiUpper, Nat.sub_sub_self fits.le]
  have hreplacement : inCaseOf ((asciiUpper name).drop (name.length - i.length))
      i.replacement.toList = asciiUpper i.replacement.toList := by
    by_cases hone : i.length = 1
    · rw [fits.single hone, String.toList_empty, inCaseOf_nil]
      rfl
    · refine inCaseOf_of_capitals (fun c hc => ?_) ?_ _
      · exact h.isUpper_of_mem_asciiUpper c (List.mem_of_mem_drop hc)
      · have := fits.pos
        omega
  rw [replaceEnding_of_noCapital fun c hc => isUpper_eq_false_of_isLower (h c hc), replaceEnding,
    length_asciiUpper, hreplacement, asciiUpper, asciiUpper, asciiUpper, List.map_append,
    List.map_take]

/-- Names that are inflected alike have singulars that differ in case alone. -/
theorem IsSmall.singularChars_asciiUpper {name : List Char} (h : IsSmall name)
    (same : inflection (asciiUpper name) = inflection name) :
    singularChars (asciiUpper name) = asciiUpper (singularChars name) := by
  rw [singularChars_eq, singularChars_eq, same]
  cases hinflection : inflection name with
  | none => rfl
  | some i => exact h.replaceEnding_asciiUpper (fits_inflection hinflection)

/-! ## Regular words -/

/-- The endings give the word the singular that it has. -/
def IsRegular (word : String) : Prop :=
  singularByEnding word.toList = singularChars word.toList

instance (word : String) : Decidable (IsRegular word) :=
  inferInstanceAs (Decidable (singularByEnding word.toList = singularChars word.toList))

/-- What the endings make of a listed word, as each word of the list shows. -/
theorem listed_shown : ∀ word ∈ listed,
    (4 ≤ word.toList.length ∨ word.toList ≠ [] ∧ endsWith word.toList "s" = false) ∧
      IsSmall (singularByEnding word.toList) ∧
      singularChars (asciiUpper word.toList) = asciiUpper (singularChars word.toList) := by
  decide +kernel

/-- An irregular plural has its own singular, and the endings give it another one. -/
theorem irregulars_shown : ∀ i ∈ irregulars,
    singularChars i.plural.toList = i.singular.toList ∧
      singularByEnding i.plural.toList ≠ i.singular.toList ∧ IsSmall i.singular.toList := by
  decide +kernel

/-- An uninflected word is its own singular, and it stands at no end of an irregular plural nor has
one at its own. -/
theorem uninflected_shown : ∀ word ∈ uninflected,
    singularChars word.toList = word.toList ∧
      (singularByEnding word.toList = word.toList → inflectionByEnding word.toList = none) ∧
      ∀ i ∈ irregulars, ¬ word.toList <:+ i.plural.toList ∧ ¬ i.plural.toList <:+ word.toList := by
  decide +kernel

theorem singularChars_uninflected {word : String} (h : word ∈ uninflected) :
    singularChars word.toList = word.toList :=
  (uninflected_shown word h).1

theorem singularChars_irregular {i : Irregular} (h : i ∈ irregulars) :
    singularChars i.plural.toList = i.singular.toList :=
  (irregulars_shown i h).1

theorem not_isRegular_irregular {i : Irregular} (h : i ∈ irregulars) : ¬ IsRegular i.plural := by
  rw [IsRegular, singularChars_irregular h]
  exact (irregulars_shown i h).2.1

/-- An uninflected word is regular just if the endings leave it alone. -/
theorem inflectionByEnding_uninflected {word : String} (h : word ∈ uninflected)
    (regular : IsRegular word) : inflectionByEnding word.toList = none := by
  rw [IsRegular, singularChars_uninflected h] at regular
  exact (uninflected_shown word h).2.1 regular

/-- The listed words are long enough for the endings. -/
theorem isLong_of_mem_listed {word : String} (h : word ∈ listed) :
    4 ≤ word.toList.length ∨ word.toList ≠ [] ∧ endsWith word.toList "s" = false :=
  (listed_shown word h).1

theorem isSmall_singularByEnding {word : String} (h : word ∈ listed) :
    IsSmall (singularByEnding word.toList) :=
  (listed_shown word h).2.1

theorem isSmall_irregular {i : Irregular} (h : i ∈ irregulars) : IsSmall i.singular.toList :=
  (irregulars_shown i h).2.2

/-- No name ends both with an uninflected word and with an irregular plural. -/
theorem uninflected_apart {word : String} (h : word ∈ uninflected) {i : Irregular}
    (hi : i ∈ irregulars) :
    ¬ word.toList <:+ i.plural.toList ∧ ¬ i.plural.toList <:+ word.toList :=
  (uninflected_shown word h).2.2 i hi

/-- The listed words themselves have singulars that come out in capitals. -/
theorem singularChars_listed {word : String} (h : word ∈ listed) :
    singularChars (asciiUpper word.toList) = asciiUpper (singularChars word.toList) :=
  (listed_shown word h).2.2

/-! ## The singular of a name in capitals -/

variable {name : List Char}

theorem IsSmall.inflection_of_unlisted (h : IsSmall name)
    (unlisted : ∀ word ∈ listed, word.toList ≠ name) :
    inflection name = inflectionByEnding name := by
  refine inflection_eq_inflectionByEnding fun word hword => ?_
  rw [h.endsWithWord_eq (ne_nil_of_mem_listed hword), decide_eq_false (unlisted word hword)]

/-- What the lists are asked about a name in capitals. -/
theorem IsSmall.endsWithWord_asciiUpper (h : IsSmall name) {word : String} (hword : word ∈ listed) :
    endsWithWord (asciiUpper name) word = endsWith name word := by
  rw [endsWithWord_of_capitals h.isUpper_of_mem_asciiUpper (ne_nil_of_mem_listed hword),
    endsWith_asciiUpper]

/-- A name that is not listed and ends with regular words only is inflected alike in capitals. -/
theorem IsSmall.inflection_asciiUpper (h : IsSmall name)
    (unlisted : ∀ word ∈ listed, word.toList ≠ name)
    (regular : ∀ word ∈ listed, endsWith name word = true → IsRegular word) :
    inflection (asciiUpper name) = inflection name := by
  rw [h.inflection_of_unlisted unlisted]
  by_cases plain : ∃ word ∈ uninflected, endsWith name word = true
  · obtain ⟨word, hword, hends⟩ := plain
    have hlisted := mem_listed_of_uninflected hword
    obtain ⟨stem, hstem⟩ := endsWith_iff.mp hends
    rw [h.asciiLower_eq] at hstem
    have hleft : inflectionByEnding name = none := by
      rw [hstem, inflectionByEnding_append stem (isLong_of_mem_listed hlisted)]
      exact inflectionByEnding_uninflected hword (regular word hlisted hends)
    rw [hleft, inflection, if_pos]
    exact List.any_eq_true.mpr ⟨word, hword, (h.endsWithWord_asciiUpper hlisted).trans hends⟩
  · rw [← inflectionByEnding_congr (asciiLower_asciiUpper name)]
    refine inflection_eq_inflectionByEnding fun word hword => ?_
    rw [h.endsWithWord_asciiUpper hword, ← Bool.not_eq_true]
    intro hends
    rcases List.mem_append.mp hword with huninflected | hirregular
    · exact plain ⟨word, huninflected, hends⟩
    · obtain ⟨i, hi, rfl⟩ := List.mem_map.mp hirregular
      exact not_isRegular_irregular hi (regular i.plural hword hends)

/-- A name that ends with a word that is not regular gets, in capitals, the singular of such a
word. -/
theorem IsSmall.exists_irregular_end (h : IsSmall name) {word : String} (hword : word ∈ listed)
    (hends : endsWith name word = true) (irregular : ¬ IsRegular word) :
    ∃ last ∈ listed, ∃ stem, name = stem ++ last.toList ∧ ¬ IsRegular last ∧
      asciiLower (singularChars (asciiUpper name)) = stem ++ singularChars last.toList := by
  obtain ⟨stem, hstem⟩ := endsWith_iff.mp hends
  rw [h.asciiLower_eq] at hstem
  by_cases plain : ∃ word ∈ uninflected, endsWith name word = true
  · -- The word is uninflected too, for no irregular plural stands at the same end.
    have huninflected : word ∈ uninflected := by
      refine (List.mem_append.mp hword).resolve_right fun hplural => ?_
      obtain ⟨i, hi, rfl⟩ := List.mem_map.mp hplural
      obtain ⟨other, hother, hotherEnds⟩ := plain
      obtain ⟨front, hfront⟩ := endsWith_iff.mp hotherEnds
      rw [h.asciiLower_eq] at hfront
      obtain ⟨hapart, hapart'⟩ := uninflected_apart hother hi
      rcases List.suffix_or_suffix_of_suffix ⟨front, hfront.symm⟩ ⟨stem, hstem.symm⟩ with hs | hs
      · exact hapart hs
      · exact hapart' hs
    refine ⟨word, hword, stem, hstem, irregular, ?_⟩
    have hany : uninflected.any (endsWithWord (asciiUpper name)) = true :=
      List.any_eq_true.mpr ⟨word, huninflected, (h.endsWithWord_asciiUpper hword).trans hends⟩
    rw [singularChars, if_pos hany, asciiLower_asciiUpper, h.asciiLower_eq,
      singularChars_uninflected huninflected, ← hstem]
  · have hany : uninflected.any (endsWithWord (asciiUpper name)) = false := by
      rw [List.any_eq_false]
      intro other hother hotherEnds
      rw [h.endsWithWord_asciiUpper (mem_listed_of_uninflected hother)] at hotherEnds
      exact plain ⟨other, hother, hotherEnds⟩
    obtain ⟨i, hi, rfl⟩ : ∃ i ∈ irregulars, i.plural = word := by
      rcases List.mem_append.mp hword with huninflected | hplural
      · exact absurd ⟨word, huninflected, hends⟩ plain
      · exact List.mem_map.mp hplural
    -- The first of the irregular plurals at this end counts.
    have hsome : (irregulars.find? fun i => endsWithWord (asciiUpper name) i.plural).isSome := by
      rw [List.find?_isSome]
      exact ⟨i, hi, (h.endsWithWord_asciiUpper hword).trans hends⟩
    obtain ⟨first, hfirst⟩ := Option.isSome_iff_exists.mp hsome
    have hmem := List.mem_of_find?_eq_some hfirst
    have hlisted := mem_listed_of_irregular hmem
    have hfirstEnds : endsWith name first.plural = true := by
      rw [← h.endsWithWord_asciiUpper hlisted]
      simpa using List.find?_some hfirst
    obtain ⟨front, hfront⟩ := endsWith_iff.mp hfirstEnds
    have hcapitals : asciiLower (asciiUpper name) = front ++ first.plural.toList := by
      rw [asciiLower_asciiUpper, hfront]
    rw [h.asciiLower_eq] at hfront
    refine ⟨first.plural, hlisted, front, hfront, not_isRegular_irregular hmem, ?_⟩
    rw [singularChars, hany, if_neg Bool.false_ne_true, hfirst, singularChars_irregular hmem]
    exact (asciiLower_replaceEnding hcapitals first.singular).trans
      (by rw [(isSmall_irregular hmem).asciiLower_eq])

theorem IsSmall.singularChars_asciiUpper_iff (h : IsSmall name) :
    singularChars (asciiUpper name) = asciiUpper (singularChars name) ↔
      (∃ word ∈ listed, word.toList = name) ∨
        ∀ word ∈ listed, endsWith name word = true → IsRegular word := by
  constructor
  · intro heq
    rw [or_iff_not_imp_left]
    intro hlisted word hword hends
    by_contra irregular
    obtain ⟨last, hlast, stem, hname, hirregular, hsingular⟩ :=
      h.exists_irregular_end hword hends irregular
    have unlisted : ∀ word ∈ listed, word.toList ≠ name :=
      fun word hword hsame => hlisted ⟨word, hword, hsame⟩
    -- In small letters the endings alone make the singular, and they make it of the same end.
    have hendings : singularChars name = stem ++ singularByEnding last.toList := by
      rw [singularChars_eq, h.inflection_of_unlisted unlisted, ← singularByEnding_eq]
      conv => lhs; rw [hname]
      exact singularByEnding_append stem (isLong_of_mem_listed hlast)
    have hstem : asciiLower stem = stem := (hname ▸ h).of_append_left.asciiLower_eq
    rw [heq, asciiLower_asciiUpper, hendings, asciiLower_append, hstem,
      (isSmall_singularByEnding hlast).asciiLower_eq] at hsingular
    exact hirregular (List.append_cancel_left hsingular)
  · rintro (⟨word, hword, rfl⟩ | regular)
    · exact singularChars_listed hword
    · by_cases hlisted : ∃ word ∈ listed, word.toList = name
      · obtain ⟨word, hword, rfl⟩ := hlisted
        exact singularChars_listed hword
      · refine h.singularChars_asciiUpper (h.inflection_asciiUpper ?_ regular)
        exact fun word hword hsame => hlisted ⟨word, hword, hsame⟩

/-- The text in ASCII capitals. -/
def capitals (s : String) : String := String.ofList (asciiUpper s.toList)

/-- A word in capitals gets the singular in capitals just if the word is listed, or each listed word
that it ends with has no other singular than the endings give it. -/
theorem singular_capitals_iff {w : String} (hsmall : ∀ c ∈ w.toList, c.isLower = true) :
    singular (capitals w) = capitals (singular w) ↔
      w ∈ listed ∨ ∀ word ∈ listed, endsWith w.toList word = true →
        singularByEnding word.toList = singularChars word.toList := by
  have h : IsSmall w.toList := hsmall
  have hlisted : w ∈ listed ↔ ∃ word ∈ listed, word.toList = w.toList := by
    constructor
    · exact fun hw => ⟨w, hw, rfl⟩
    · rintro ⟨word, hword, hsame⟩
      exact String.toList_inj.mp hsame ▸ hword
  rw [hlisted, ← String.toList_inj, capitals, capitals, singular, singular, String.toList_ofList,
    String.toList_ofList, String.toList_ofList, String.toList_ofList]
  exact h.singularChars_asciiUpper_iff

/-- Categories end with no listed word, and women, who are listed, with another one. -/
theorem singular_capitals_women :
    singular (capitals "women") = capitals (singular "women") ∧
      singular (capitals "categories") = capitals (singular "categories") := by
  have hwomen : ∀ c ∈ "women".toList, c.isLower = true := List.all_eq_true.mp (by decide)
  have hcategories : ∀ c ∈ "categories".toList, c.isLower = true := List.all_eq_true.mp (by decide)
  have hregular : ∀ word ∈ listed, endsWith "categories".toList word = true →
      singularByEnding word.toList = singularChars word.toList := by decide +kernel
  exact ⟨(singular_capitals_iff hwomen).mpr (.inl (by decide)),
    (singular_capitals_iff hcategories).mpr (.inr hregular)⟩

/-- Tomatoes in capitals end with toes, which are listed. -/
theorem singular_capitals_tomatoes :
    singular (capitals "tomatoes") = "TOMATOE" ∧ capitals (singular "tomatoes") = "TOMATO" ∧
      singular (capitals "tomatoes") ≠ capitals (singular "tomatoes") := by
  decide +kernel

end WideColumn.Name
