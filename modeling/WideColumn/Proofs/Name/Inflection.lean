import Mathlib.Data.List.Find
import WideColumn.Proofs.Name.Plural

/-!
# Inflections

A singular form is made in two steps: the lists and the endings choose an inflection, and the end of
the name is replaced as it says. The endings look at the small letters of a name only, and not
beyond its last four letters; the lists ask besides where the last word begins. So the two steps can
be compared one by one for names that differ in case, or in what stands in front.

Main definitions: `Name.Inflection`, `Name.inflection`, `Name.listed`.
Main results: `Name.inflection_congr`, `Name.inflectionByEnding_append`,
`Name.singularByEnding_append`.
-/

namespace WideColumn.Name

open Text

/-! ## Choice and replacement -/

/-- How many characters at the end of a name go, and what takes their place. -/
structure Inflection where
  length : Nat
  replacement : String
  deriving DecidableEq

/-- The name after an inflection, if there is one. -/
def inflected (name : List Char) : Option Inflection → List Char
  | none => name
  | some i => replaceEnding name i.length i.replacement

/-- The inflection that the endings choose. -/
def inflectionByEnding (name : List Char) : Option Inflection :=
  if singularEndings.any (endsWith name) then none
  else if endsWithConsonantIes name then some ⟨3, "y"⟩
  else if esEndings.any (endsWith name) then some ⟨2, ""⟩
  else if name.length > 1 && endsWith name "s" then some ⟨1, ""⟩
  else none

/-- The inflection of an irregular plural. -/
def Irregular.inflection (i : Irregular) : Inflection := ⟨i.plural.toList.length, i.singular⟩

/-- The inflection that the lists and the endings choose. -/
def inflection (name : List Char) : Option Inflection :=
  if uninflected.any (endsWithWord name) then none
  else match irregulars.find? (fun i => endsWithWord name i.plural) with
    | some i => some i.inflection
    | none => inflectionByEnding name

theorem singularByEnding_eq (name : List Char) :
    singularByEnding name = inflected name (inflectionByEnding name) := by
  unfold singularByEnding inflectionByEnding
  split
  · rfl
  split
  · rfl
  split
  · rfl
  split <;> rfl

theorem singularChars_eq (name : List Char) :
    singularChars name = inflected name (inflection name) := by
  unfold singularChars inflection
  split
  · rfl
  · cases irregulars.find? (fun i => endsWithWord name i.plural) with
    | none => exact singularByEnding_eq name
    | some i => rfl

/-! ## The words of the lists -/

/-- The words that have a singular of their own. -/
def listed : List String := uninflected ++ irregulars.map (·.plural)

theorem mem_listed_of_uninflected {word : String} (h : word ∈ uninflected) : word ∈ listed :=
  List.mem_append_left _ h

theorem mem_listed_of_irregular {i : Irregular} (h : i ∈ irregulars) : i.plural ∈ listed :=
  List.mem_append_right _ (List.mem_map_of_mem h)

theorem length_le_of_endsWith {name : List Char} {ending : String}
    (h : endsWith name ending = true) : ending.toList.length ≤ name.length := by
  rw [endsWith, List.isSuffixOf_iff_suffix] at h
  exact h.length_le.trans_eq (length_asciiLower name)

/-- A name does not end with a word that is longer. -/
theorem endsWithWord_of_lt {name : List Char} {word : String}
    (h : name.length < word.toList.length) : endsWithWord name word = false := by
  rw [← Bool.not_eq_true]
  intro hends
  exact absurd (length_le_of_endsWith (Bool.and_eq_true_iff.mp hends).1) (Nat.not_le_of_lt h)

theorem ne_nil_of_mem_listed {word : String} (h : word ∈ listed) : word.toList ≠ [] := by
  have all : ∀ word ∈ listed, word.toList ≠ [] := by decide
  exact all word h

theorem wordStartsAt_append (front : List Char) (first : Char) (rest : List Char) :
    wordStartsAt (front ++ first :: rest) (first :: rest).length =
      match front.getLast? with
      | none => true
      | some before => first.isUpper || before = '_' := by
  unfold wordStartsAt
  rw [List.length_append, Nat.add_sub_cancel, List.drop_left, List.take_left]
  cases front.getLast? <;> rfl

/-- Names that end with the same words of the lists and for which the endings choose alike are
inflected alike. -/
theorem inflection_congr {a b : List Char}
    (words : ∀ word ∈ listed, endsWithWord a word = endsWithWord b word)
    (endings : inflectionByEnding a = inflectionByEnding b) : inflection a = inflection b := by
  have plain : uninflected.any (endsWithWord a) = uninflected.any (endsWithWord b) := by
    rw [Bool.eq_iff_iff, List.any_eq_true, List.any_eq_true]
    refine exists_congr fun word => and_congr_right fun hword => ?_
    rw [words word (mem_listed_of_uninflected hword)]
  have irregular : irregulars.find? (fun i => endsWithWord a i.plural) =
      irregulars.find? (fun i => endsWithWord b i.plural) :=
    List.find?_congr fun i hi => words i.plural (mem_listed_of_irregular hi)
  unfold inflection
  rw [plain, irregular, endings]

/-- A name that ends with no word of the lists is inflected as the endings choose. -/
theorem inflection_eq_inflectionByEnding {name : List Char}
    (h : ∀ word ∈ listed, endsWithWord name word = false) :
    inflection name = inflectionByEnding name := by
  have plain : uninflected.any (endsWithWord name) = false := by
    rw [List.any_eq_false]
    intro word hword
    rw [h word (mem_listed_of_uninflected hword)]
    exact Bool.false_ne_true
  have irregular : irregulars.find? (fun i => endsWithWord name i.plural) = none := by
    rw [List.find?_eq_none]
    intro i hi
    rw [h i.plural (mem_listed_of_irregular hi)]
    exact Bool.false_ne_true
  unfold inflection
  rw [plain, irregular]
  rfl

/-! ## What the endings look at -/

theorem endsWith_congr {a b : List Char} (h : asciiLower a = asciiLower b) :
    endsWith a = endsWith b := by
  funext ending
  rw [endsWith, endsWith, h]

/-- The endings look at small letters only. -/
theorem inflectionByEnding_congr {a b : List Char} (h : asciiLower a = asciiLower b) :
    inflectionByEnding a = inflectionByEnding b := by
  have length : a.length = b.length := by rw [← length_asciiLower, h, length_asciiLower]
  unfold inflectionByEnding endsWithConsonantIes
  rw [endsWith_congr h, h, length]

/-- What stands in front of a word makes no difference to the endings that fit into the word. -/
theorem endsWith_append (front : List Char) {word : List Char} {ending : String}
    (h : ending.toList.length ≤ word.length) :
    endsWith (front ++ word) ending = endsWith word ending := by
  unfold endsWith
  rw [Bool.eq_iff_iff, List.isSuffixOf_iff_suffix, List.isSuffixOf_iff_suffix, asciiLower_append]
  constructor
  · intro hsuffix
    refine List.suffix_of_suffix_length_le hsuffix (List.suffix_append _ _) ?_
    rwa [length_asciiLower]
  · exact List.suffix_append_of_suffix

theorem any_endsWith_append {endings : List String} (front : List Char) {word : List Char}
    (h : ∀ ending ∈ endings, ending.toList.length ≤ word.length) :
    endings.any (endsWith (front ++ word)) = endings.any (endsWith word) := by
  rw [Bool.eq_iff_iff, List.any_eq_true, List.any_eq_true]
  refine exists_congr fun ending => and_congr_right fun hending => ?_
  rw [endsWith_append front (h ending hending)]

theorem endsWithConsonantIes_append (front : List Char) {word : List Char}
    (h : 4 ≤ word.length) :
    endsWithConsonantIes (front ++ word) = endsWithConsonantIes word := by
  have three : ("ies" : String).toList.length ≤ word.length := Nat.le_of_succ_le h
  have behind : 3 ≤ (asciiLower word).reverse.length := by
    rw [List.length_reverse, length_asciiLower]
    exact three
  unfold endsWithConsonantIes
  rw [endsWith_append front three, asciiLower_append, List.reverse_append,
    List.drop_append_of_le_length behind]
  -- The character before the ending is one of the word.
  cases hbefore : List.drop 3 (asciiLower word).reverse with
  | nil =>
    have hlength := congrArg List.length hbefore
    rw [List.length_drop, List.length_reverse, length_asciiLower, List.length_nil] at hlength
    omega
  | cons c rest => rfl

/-- A name that does not end with an `s` is left alone by the endings. -/
theorem inflectionByEnding_of_not_s {name : List Char} (h : endsWith name "s" = false) :
    inflectionByEnding name = none := by
  have hs : ∀ ending, ['s'] <:+ ending.toList → endsWith name ending = false := by
    intro ending hending
    rw [← Bool.not_eq_true, endsWith, List.isSuffixOf_iff_suffix] at h ⊢
    exact fun hsuffix => h (hending.trans hsuffix)
  have plural : esEndings.any (endsWith name) = false := by
    have all : ∀ ending ∈ esEndings, ['s'] <:+ ending.toList := by decide
    rw [List.any_eq_false]
    intro ending hending
    rw [hs ending (all ending hending)]
    exact Bool.false_ne_true
  unfold inflectionByEnding endsWithConsonantIes
  rw [hs "ies" (by decide), plural, h]
  simp

/-- The endings choose for a name what they choose for its last word, if this has four letters or
does not end with an `s`. -/
theorem inflectionByEnding_append (front : List Char) {word : List Char}
    (h : 4 ≤ word.length ∨ word ≠ [] ∧ endsWith word "s" = false) :
    inflectionByEnding (front ++ word) = inflectionByEnding word := by
  rcases h with h | ⟨hne, hs⟩
  · have singular : ∀ ending ∈ singularEndings, ending.toList.length ≤ word.length := by
      have all : ∀ ending ∈ singularEndings, ending.toList.length ≤ 4 := by decide
      exact fun ending hending => (all ending hending).trans h
    have plural : ∀ ending ∈ esEndings, ending.toList.length ≤ word.length := by
      have all : ∀ ending ∈ esEndings, ending.toList.length ≤ 4 := by decide
      exact fun ending hending => (all ending hending).trans h
    have one : ("s" : String).toList.length ≤ word.length := by
      change 1 ≤ word.length
      omega
    have long : decide ((front ++ word).length > 1) = decide (word.length > 1) := by
      rw [List.length_append, decide_eq_decide]
      omega
    unfold inflectionByEnding
    rw [any_endsWith_append front singular, any_endsWith_append front plural,
      endsWithConsonantIes_append front h, endsWith_append front one, long]
  · have one : ("s" : String).toList.length ≤ word.length := List.length_pos_iff.mpr hne
    rw [inflectionByEnding_of_not_s hs,
      inflectionByEnding_of_not_s ((endsWith_append front one).trans hs)]

/-! ## What is replaced -/

/-- The inflection fits a name: it replaces some of its last letters, and one letter by nothing. -/
structure Inflection.Fits (i : Inflection) (name : List Char) : Prop where
  pos : 0 < i.length
  le : i.length ≤ name.length
  small : ∀ c ∈ i.replacement.toList, c.isLower = true
  single : i.length = 1 → i.replacement = ""

theorem fits_inflectionByEnding {name : List Char} {i : Inflection}
    (h : inflectionByEnding name = some i) : i.Fits name := by
  unfold inflectionByEnding at h
  split at h
  · cases h
  split at h
  case isTrue hies =>
    obtain rfl := Option.some.inj h
    exact ⟨by decide, length_le_of_endsWith (Bool.and_eq_true_iff.mp hies).1,
      List.all_eq_true.mp (by decide), by decide⟩
  split at h
  case isTrue hes =>
    obtain rfl := Option.some.inj h
    obtain ⟨ending, hending, hends⟩ := List.any_eq_true.mp hes
    have long : ∀ ending ∈ esEndings, 2 ≤ ending.toList.length := by decide
    exact ⟨by decide, (long ending hending).trans (length_le_of_endsWith hends),
      List.all_eq_true.mp (by decide), by decide⟩
  split at h
  case isTrue hs =>
    obtain rfl := Option.some.inj h
    exact ⟨by decide, length_le_of_endsWith (Bool.and_eq_true_iff.mp hs).2,
      List.all_eq_true.mp (by decide), by decide⟩
  · cases h

theorem fits_inflection {name : List Char} {i : Inflection} (h : inflection name = some i) :
    i.Fits name := by
  unfold inflection at h
  split at h
  · cases h
  · split at h
    case _ irregular hi =>
      obtain rfl := Option.some.inj h
      have ends : endsWithWord name irregular.plural = true := by simpa using List.find?_some hi
      have words : ∀ i ∈ irregulars, 1 < i.plural.toList.length ∧
          i.singular.toList.all Char.isLower = true := by decide
      obtain ⟨hlong, hsmall⟩ := words irregular (List.mem_of_find?_eq_some hi)
      exact
        { pos := Nat.lt_of_succ_lt hlong
          le := length_le_of_endsWith (Bool.and_eq_true_iff.mp ends).1
          small := List.all_eq_true.mp hsmall
          single := fun hone => absurd hone (Nat.ne_of_gt hlong) }
    case _ => exact fits_inflectionByEnding h

/-- An ending that is no longer than the last word is replaced within that word. -/
theorem replaceEnding_append (front : List Char) {word : List Char} {k : Nat}
    (h : k ≤ word.length) (replacement : String) :
    replaceEnding (front ++ word) k replacement = front ++ replaceEnding word k replacement := by
  unfold replaceEnding
  have cut : (front ++ word).length - k = front.length + (word.length - k) := by
    rw [List.length_append]
    omega
  rw [cut, List.take_length_add_append, List.drop_length_add_append, List.append_assoc]

/-- The endings inflect the last word of a name, if this has four letters or does not end with an
`s`. -/
theorem singularByEnding_append (front : List Char) {word : List Char}
    (h : 4 ≤ word.length ∨ word ≠ [] ∧ endsWith word "s" = false) :
    singularByEnding (front ++ word) = front ++ singularByEnding word := by
  rw [singularByEnding_eq, singularByEnding_eq, inflectionByEnding_append front h]
  cases hinflection : inflectionByEnding word with
  | none => rfl
  | some i =>
    exact replaceEnding_append front (fits_inflectionByEnding hinflection).le i.replacement

/-! ## The case of a replacement -/

/-- What replaces small letters, or no letters, stays as it is. -/
theorem inCaseOf_of_noCapital {removed : List Char} (h : ∀ c ∈ removed, c.isUpper = false)
    (replacement : List Char) : inCaseOf removed replacement = replacement := by
  have mixed : (!(removed.filter Char.isAlpha).isEmpty &&
      (removed.filter Char.isAlpha).all Char.isUpper && decide (removed.length > 1)) = false := by
    cases hletters : removed.filter Char.isAlpha with
    | nil => rfl
    | cons c rest =>
      have hc : c ∈ removed := (List.mem_filter.mp (hletters ▸ List.mem_cons_self)).1
      simp [h c hc]
  unfold inCaseOf
  dsimp only
  rw [mixed, if_neg Bool.false_ne_true]
  split
  case _ first rest c r => rw [if_neg (by simp [h first List.mem_cons_self])]
  case _ => rfl

/-- What replaces several capitals is in capitals. -/
theorem inCaseOf_of_capitals {removed : List Char} (h : ∀ c ∈ removed, c.isUpper = true)
    (long : 1 < removed.length) (replacement : List Char) :
    inCaseOf removed replacement = asciiUpper replacement := by
  have letters : removed.filter Char.isAlpha = removed := by
    rw [List.filter_eq_self]
    intro c hc
    simp [isAlpha_eq, h c hc]
  have nonempty : removed ≠ [] := List.ne_nil_of_length_pos (Nat.lt_of_succ_lt long)
  unfold inCaseOf
  dsimp only
  rw [letters, if_pos]
  simpa [nonempty, long] using h

/-- What replaces a capital and the small letters behind it begins with a capital. -/
theorem inCaseOf_capital {first : Char} {rest : List Char} (hfirst : first.isUpper = true)
    (hrest : ∀ c ∈ rest, c.isLower = true) (c : Char) (r : List Char) :
    inCaseOf (first :: rest) (c :: r) = c.toUpper :: r := by
  have mixed : (!((first :: rest).filter Char.isAlpha).isEmpty &&
      ((first :: rest).filter Char.isAlpha).all Char.isUpper &&
        decide ((first :: rest).length > 1)) = false := by
    cases rest with
    | nil => simp
    | cons second rest =>
      have hsecond := hrest second List.mem_cons_self
      simp [isAlpha_eq, hfirst, hsecond, isUpper_eq_false_of_isLower hsecond]
  unfold inCaseOf
  dsimp only
  rw [mixed, if_neg Bool.false_ne_true, if_pos hfirst]

/-- In a name of small letters the replacement is put in as it is. -/
theorem replaceEnding_of_noCapital {name : List Char} (h : ∀ c ∈ name, c.isUpper = false) (k : Nat)
    (replacement : String) :
    replaceEnding name k replacement = name.take (name.length - k) ++ replacement.toList := by
  rw [replaceEnding, inCaseOf_of_noCapital fun c hc => h c (List.mem_of_mem_drop hc)]

end WideColumn.Name
