import WideColumn.Proofs.Name.Camel
import WideColumn.Proofs.Name.LastWord
import WideColumn.Proofs.Name.ModelFile
import WideColumn.Proofs.Text.Apart

/-!
# From snake case to kebab case

Pascal case takes the underscores between the words of a name away and gives each word a capital.
Kebab case puts a hyphen in front of a capital only if a small letter or a digit stands before it,
so it finds the end of a word again if the word has more than its capital. Words of one character
run into the next word.

Main definitions: `Name.isSnakeWord`, `Name.hyphenJoined`.
Main results: `Name.toList_kebab`, `Name.kebab_pascal_snake`.
-/

namespace WideColumn.Name

open Text

/-! ## Small letters -/

/-- A character of a word, or a hyphen. -/
def isHyphenatedChar (c : Char) : Bool := isWordChar c || c = '-'

theorem isHyphenatedChar_ascii {c : Char} (h : isHyphenatedChar c = true) : c.toNat < 128 := by
  rcases Bool.or_eq_true_iff.mp h with word | hyphen
  · exact isAlphabet_isWordChar.ascii word
  · rw [of_decide_eq_true hyphen]
    decide

theorem Within.hyphenated_word {s : List Char} (h : Within isWordChar s) :
    Within isHyphenatedChar (Name.hyphenated s) :=
  Within.hyphenated (by decide) fun c hc => by simp [isHyphenatedChar, h c hc]

/-- A word in kebab case is the word with its hyphens, in small ASCII letters. -/
theorem toList_kebab {name : String} (h : Within isWordChar name.toList) :
    (kebab name).toList = asciiLower (hyphenated name.toList) := by
  rw [kebab, String.toList_ofList,
    lower_of_ascii fun c hc => isHyphenatedChar_ascii (h.hyphenated_word c hc)]

/-! ## Words of snake case -/

/-- A small letter or a digit. -/
def isSnakeChar (c : Char) : Bool := c.isLower || c.isDigit

/-- The text is a word of snake case: a small letter, and small letters and digits behind it. -/
def isSnakeWord : List Char → Bool
  | [] => false
  | c :: r => c.isLower && r.all isSnakeChar

/-- The words one after the other, with a hyphen behind each that has two characters or more and is
not the last. -/
def hyphenJoined : List String → String
  | [] => ""
  | [word] => word
  | word :: next :: rest =>
    word ++ (if 2 ≤ word.length then "-" else "") ++ hyphenJoined (next :: rest)

section Chars

variable {c : Char}

theorem isWordChar_of_isSnakeChar (h : isSnakeChar c = true) : isWordChar c = true := by
  rcases Bool.or_eq_true_iff.mp h with small | digit
  · simp [isWordChar, Char.isAlphanum, isAlpha_eq, small]
  · simp [isWordChar, Char.isAlphanum, digit]

theorem isUpper_of_isSnakeChar (h : isSnakeChar c = true) : c.isUpper = false := by
  rcases Bool.or_eq_true_iff.mp h with small | digit
  · exact isUpper_eq_false_of_isLower small
  · have := toNat_lt_of_isDigit digit
    rw [← Bool.not_eq_true, isUpper_iff]
    omega

theorem ne_underscore_of_isSnakeChar (h : isSnakeChar c = true) : c ≠ '_' := by
  rintro rfl
  exact absurd h (by decide)

end Chars

/-- A word is a small letter and the characters behind it. -/
theorem exists_of_isSnakeWord {s : List Char} (h : isSnakeWord s = true) :
    ∃ c r, s = c :: r ∧ c.isLower = true ∧ ∀ d ∈ r, isSnakeChar d = true := by
  cases s with
  | nil => cases h
  | cons c r =>
    rw [isSnakeWord, Bool.and_eq_true, List.all_eq_true] at h
    exact ⟨c, r, rfl, h.1, h.2⟩

theorem isSnakeChar_of_mem {s : List Char} (h : isSnakeWord s = true) :
    ∀ c ∈ s, isSnakeChar c = true := by
  obtain ⟨c, r, rfl, small, rest⟩ := exists_of_isSnakeWord h
  intro d hd
  rcases List.mem_cons.mp hd with rfl | hd
  · simp [isSnakeChar, small]
  · exact rest d hd

/-! ## Pascal case -/

/-- Camel case leaves what has no underscore as it is. -/
theorem camelChars_append {s : List Char} (h : '_' ∉ s) (t : List Char) :
    camelChars (s ++ t) = s ++ camelChars t := by
  induction s with
  | nil => rfl
  | cons c s ih =>
    rw [List.cons_append, camelChars_other (List.ne_of_not_mem_cons h).symm,
      ih (List.not_mem_of_not_mem_cons h), List.cons_append]

/-- Words with an underscore in front of each become words with a capital each. -/
theorem camelChars_words {words : List (List Char)} (h : ∀ w ∈ words, isSnakeWord w = true) :
    camelChars (words.flatMap (['_'] ++ ·)) = words.flatMap capitalized := by
  induction words with
  | nil => rfl
  | cons word words ih =>
    obtain ⟨c, r, rfl, small, rest⟩ := exists_of_isSnakeWord (h _ List.mem_cons_self)
    have plain : '_' ∉ r := fun hmem => ne_underscore_of_isSnakeChar (rest '_' hmem) rfl
    rw [List.flatMap_cons, List.flatMap_cons, capitalized_cons small,
      ← ih fun w hw => h w (List.mem_cons_of_mem _ hw)]
    simp only [List.cons_append, List.nil_append]
    rw [camelChars_small small, camelChars_append plain]

/-- In pascal case each word of a name has a capital. -/
theorem pascal_words {words : List (List Char)} (h : ∀ w ∈ words, isSnakeWord w = true) :
    capitalized (camelChars (['_'].intercalate words)) = words.flatMap capitalized := by
  cases words with
  | nil => rfl
  | cons word words =>
    obtain ⟨c, r, rfl, small, rest⟩ := exists_of_isSnakeWord (h _ List.mem_cons_self)
    have plain : '_' ∉ c :: r := fun hmem =>
      ne_underscore_of_isSnakeChar (isSnakeChar_of_mem (h _ List.mem_cons_self) '_' hmem) rfl
    rw [intercalate_cons_flatMap, camelChars_append plain,
      camelChars_words fun w hw => h w (List.mem_cons_of_mem _ hw), List.cons_append,
      capitalized_cons small, List.flatMap_cons, capitalized_cons small, List.cons_append]

/-! ## Hyphens -/

/-- What goes between two texts: a hyphen, if the one ends with a small letter or a digit and the
other begins with a capital. -/
def hyphenBetween (s t : List Char) : List Char :=
  match s.getLast?, t.head? with
  | some c, some d => if d.isUpper && (c.isLower || c.isDigit) then ['-'] else []
  | _, _ => []

theorem hyphenated_append (s t : List Char) :
    hyphenated (s ++ t) = hyphenated s ++ hyphenBetween s t ++ hyphenated t := by
  induction s using hyphenated.induct with
  | case1 => simp [hyphenated, hyphenBetween]
  | case2 c =>
    cases t with
    | nil => simp [hyphenated, hyphenBetween]
    | cons d t =>
      rw [List.singleton_append, hyphenated, hyphenBetween]
      simp only [List.getLast?_singleton, List.head?_cons, hyphenated]
      split <;> simp
  | case3 c d r h ih =>
    rw [List.cons_append, List.cons_append, hyphenated, if_pos h, hyphenated, if_pos h,
      ← List.cons_append, ih]
    simp [hyphenBetween]
  | case4 c d r h ih =>
    rw [List.cons_append, List.cons_append, hyphenated, if_neg h, hyphenated, if_neg h,
      ← List.cons_append, ih]
    simp [hyphenBetween]

/-- Nothing goes into a text that has no capital behind its first character. -/
theorem hyphenated_of_noCapital {c : Char} {r : List Char} (h : ∀ d ∈ r, d.isUpper = false) :
    hyphenated (c :: r) = c :: r := by
  induction r generalizing c with
  | nil => rfl
  | cons d r ih =>
    rw [hyphenated, if_neg (by simp [h d List.mem_cons_self]),
      ih fun e he => h e (List.mem_cons_of_mem d he)]

/-- A word with a capital ends with a small letter or a digit if it has more than the capital. -/
theorem hyphenBetween_capitalized {word next : List Char} (hword : isSnakeWord word = true)
    (hnext : isSnakeWord next = true) (t : List Char) :
    hyphenBetween (capitalized word) (capitalized next ++ t) =
      if 2 ≤ word.length then ['-'] else [] := by
  obtain ⟨c, r, rfl, small, rest⟩ := exists_of_isSnakeWord hword
  obtain ⟨d, r', rfl, small', -⟩ := exists_of_isSnakeWord hnext
  have capital : d.toUpper.isUpper = true := isUpper_toUpper small'
  rw [capitalized_cons small, capitalized_cons small', hyphenBetween]
  cases hlast : r.getLast? with
  | none =>
    obtain rfl : r = [] := List.getLast?_eq_none_iff.mp hlast
    have big : c.toUpper.isUpper = true := isUpper_toUpper small
    have noDigit : c.toUpper.isDigit = false := by
      rw [← Bool.not_eq_true]
      intro digit
      have := toNat_lt_of_isDigit digit
      rw [isUpper_iff] at big
      omega
    simp [isLower_eq_false_of_isUpper big, noDigit]
  | some e =>
    have he : isSnakeChar e = true := rest e (List.mem_of_getLast? hlast)
    have long : 2 ≤ (c :: r).length :=
      Nat.succ_le_succ (List.length_pos_of_mem (List.mem_of_getLast? hlast))
    rw [isSnakeChar] at he
    rw [if_pos long]
    simp [List.getLast?_cons, hlast, capital, he]

theorem toList_hyphenJoined_cons (word next : String) (rest : List String) :
    (hyphenJoined (word :: next :: rest)).toList =
      word.toList ++ (if 2 ≤ word.toList.length then ['-'] else []) ++
        (hyphenJoined (next :: rest)).toList := by
  rw [hyphenJoined, String.toList_append, String.toList_append, String.length_toList]
  split <;> rfl

/-- A word with a capital, in small letters, is the word. -/
theorem asciiLower_hyphenated_capitalized {word : List Char} (h : isSnakeWord word = true) :
    asciiLower (hyphenated (capitalized word)) = word := by
  obtain ⟨c, r, rfl, small, rest⟩ := exists_of_isSnakeWord h
  have noCapital : ∀ d ∈ r, d.isUpper = false := fun d hd => isUpper_of_isSnakeChar (rest d hd)
  have same : asciiLower r = r := by
    rw [asciiLower, List.map_congr_left fun d hd => toLower_eq_self (noCapital d hd), List.map_id']
  rw [capitalized_cons small, hyphenated_of_noCapital noCapital, asciiLower_cons, toLower_toUpper,
    toLower_eq_self (isUpper_eq_false_of_isLower small), same]

/-- Words with a capital each, hyphenated and in small letters, are the words joined. -/
theorem asciiLower_hyphenated_words {words : List String}
    (h : ∀ w ∈ words, isSnakeWord w.toList = true) :
    asciiLower (hyphenated ((words.map String.toList).flatMap capitalized)) =
      (hyphenJoined words).toList := by
  induction words with
  | nil => rfl
  | cons word words ih =>
    have hword := h word List.mem_cons_self
    cases words with
    | nil => simpa [hyphenJoined] using asciiLower_hyphenated_capitalized hword
    | cons next rest =>
      have hnext := h next (List.mem_cons_of_mem _ List.mem_cons_self)
      have hyphen : asciiLower (if 2 ≤ word.toList.length then ['-'] else []) =
          if 2 ≤ word.toList.length then ['-'] else [] := by split <;> rfl
      rw [toList_hyphenJoined_cons, ← ih fun w hw => h w (List.mem_cons_of_mem _ hw),
        List.map_cons, List.flatMap_cons, hyphenated_append, asciiLower_append, asciiLower_append,
        asciiLower_hyphenated_capitalized hword, List.map_cons, List.flatMap_cons,
        hyphenBetween_capitalized hword hnext, hyphen]

/-! ## All hyphens -/

theorem length_hyphenJoined_le (words : List String) :
    (hyphenJoined words).toList.length ≤ (['-'].intercalate (words.map String.toList)).length := by
  induction words with
  | nil => simp [hyphenJoined]
  | cons word words ih =>
    cases words with
    | nil => simp [hyphenJoined]
    | cons next rest =>
      rw [toList_hyphenJoined_cons, List.map_cons, List.map_cons, List.intercalate_cons_cons,
        ← List.map_cons]
      simp only [List.length_append, List.length_singleton]
      split
      · rw [List.length_singleton]
        omega
      · rw [List.length_nil]
        omega

/-- There is a hyphen between all words just if none but the last has a single character. -/
theorem hyphenJoined_eq_iff (words : List String) :
    hyphenJoined words = "-".intercalate words ↔ ∀ word ∈ words.dropLast, 2 ≤ word.length := by
  rw [← String.toList_inj, String.toList_intercalate]
  change _ = ['-'].intercalate _ ↔ _
  induction words with
  | nil => simp [hyphenJoined]
  | cons word words ih =>
    cases words with
    | nil => simp [hyphenJoined]
    | cons next rest =>
      have shorter := length_hyphenJoined_le (next :: rest)
      rw [toList_hyphenJoined_cons, List.map_cons, List.map_cons, List.intercalate_cons_cons,
        ← List.map_cons, List.dropLast_cons_cons, List.forall_mem_cons, ← ih, String.length_toList]
      by_cases long : 2 ≤ word.length
      · simp [long]
      · -- Without its hyphen the text is too short.
        simp only [long, if_false, false_and, iff_false, List.append_nil]
        intro same
        have lengths := congrArg List.length same
        simp only [List.length_append, List.length_singleton] at lengths
        omega

/-! ## Snake to kebab -/

/-- A name of words in snake case becomes the words with a hyphen behind each that has two
characters or more and is not the last, so it becomes the words in kebab case just if none but the
last has a single character. -/
theorem kebab_pascal_snake {words : List String}
    (hwords : ∀ word ∈ words, isSnakeWord word.toList = true) :
    kebab (pascal ("_".intercalate words)) = hyphenJoined words ∧
      (kebab (pascal ("_".intercalate words)) = "-".intercalate words ↔
        ∀ word ∈ words.dropLast, 2 ≤ word.length) := by
  have hlists : ∀ w ∈ words.map String.toList, isSnakeWord w = true := by
    simpa using hwords
  have hpascal : (pascal ("_".intercalate words)).toList =
      (words.map String.toList).flatMap capitalized := by
    rw [pascal, String.toList_ofList, String.toList_intercalate]
    exact pascal_words hlists
  have hword : Within isWordChar (pascal ("_".intercalate words)).toList := by
    rw [hpascal]
    intro c hc
    obtain ⟨w, hw, hc⟩ := List.mem_flatMap.mp hc
    have word : Within isWordChar w := fun d hd =>
      isWordChar_of_isSnakeChar (isSnakeChar_of_mem (hlists w hw) d hd)
    exact word.capitalized isAlphabet_isWordChar c hc
  have hkebab : kebab (pascal ("_".intercalate words)) = hyphenJoined words := by
    rw [← String.toList_inj, toList_kebab hword, hpascal, asciiLower_hyphenated_words hwords]
  rw [hkebab]
  exact ⟨rfl, hyphenJoined_eq_iff words⟩

/-- A word of one character runs into the next one, and a digit ends a word as a letter does. -/
theorem kebab_pascal_snake_device :
    (∀ word ∈ ["device2", "x", "fa"], isSnakeWord word.toList = true) ∧
      kebab (pascal ("_".intercalate ["device2", "x", "fa"])) =
          hyphenJoined ["device2", "x", "fa"] ∧
        (kebab (pascal ("_".intercalate ["device2", "x", "fa"])) =
            "-".intercalate ["device2", "x", "fa"] ↔
          ∀ word ∈ ["device2", "x", "fa"].dropLast, 2 ≤ word.length) :=
  have words : ∀ word ∈ ["device2", "x", "fa"], isSnakeWord word.toList = true := by decide
  ⟨words, kebab_pascal_snake words⟩

example : hyphenJoined ["device2", "x", "fa"] = "device2-xfa" := by decide +kernel

end WideColumn.Name
