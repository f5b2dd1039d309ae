import WideColumn.Proofs.Name.Inflection
import WideColumn.Proofs.Name.Kebab

/-!
# Identifiers

A table that is named by an identifier names its entity by an identifier, too: the case mappings
change at most the case of the first character or take the letter behind an underscore for it, and
an inflection leaves some of the name in front or puts a word in its place. The stem of the model's
file has small letters, digits, underscores and hyphens only, so the file is an entry of whatever
directory it is joined to.

Main definitions: `Name.isIdentifier`, `Name.isFileStem`, `Path.IsDirectlyIn`.
Main result: `Name.identifier_names`.
-/

namespace WideColumn

namespace Name

open Text

/-! ## Beginnings -/

/-- A character that an identifier may begin with. -/
def isIdentifierStart (c : Char) : Bool := c.isAlpha || c = '_'

/-- The text is a word that does not begin with a digit. -/
def isIdentifier : List Char → Bool
  | [] => false
  | c :: r => isIdentifierStart c && r.all isWordChar

/-- The text begins as an identifier may. -/
def BeginsIdentifier (s : List Char) : Prop := ∃ c r, s = c :: r ∧ isIdentifierStart c = true

theorem isWordChar_of_isIdentifierStart {c : Char} (h : isIdentifierStart c = true) :
    isWordChar c = true := by
  rcases Bool.or_eq_true_iff.mp h with letter | under
  · simp [isWordChar, Char.isAlphanum, letter]
  · simp [isWordChar, of_decide_eq_true under]

theorem isIdentifier_iff {s : List Char} :
    isIdentifier s = true ↔ BeginsIdentifier s ∧ Within isWordChar s := by
  cases s with
  | nil => simp [isIdentifier, BeginsIdentifier]
  | cons c r =>
    rw [isIdentifier, Bool.and_eq_true, List.all_eq_true]
    constructor
    · intro h
      have word := isWordChar_of_isIdentifierStart h.1
      exact ⟨⟨c, r, rfl, h.1⟩, .cons word h.2⟩
    · intro h
      obtain ⟨⟨d, t, hs, start⟩, word⟩ := h
      obtain ⟨rfl, rfl⟩ := List.cons.inj hs
      exact ⟨start, word.tail⟩

theorem isIdentifierStart_of_isUpper {c : Char} (h : c.isUpper = true) :
    isIdentifierStart c = true := by
  simp [isIdentifierStart, isAlpha_eq, h]

theorem isIdentifierStart_of_isLower {c : Char} (h : c.isLower = true) :
    isIdentifierStart c = true := by
  simp [isIdentifierStart, isAlpha_eq, h]

theorem isIdentifierStart_toUpper {c : Char} (h : isIdentifierStart c = true) :
    isIdentifierStart c.toUpper = true := by
  cases hc : c.isLower with
  | true => exact isIdentifierStart_of_isUpper (isUpper_toUpper hc)
  | false => rwa [toUpper_eq_self hc]

namespace BeginsIdentifier

theorem append {s : List Char} (h : BeginsIdentifier s) (t : List Char) :
    BeginsIdentifier (s ++ t) := by
  obtain ⟨c, r, rfl, start⟩ := h
  exact ⟨c, r ++ t, rfl, start⟩

/-! ## Case -/

theorem camelChars {s : List Char} (h : BeginsIdentifier s) :
    BeginsIdentifier (Name.camelChars s) := by
  obtain ⟨c, r, rfl, start⟩ := h
  cases r with
  | nil => exact ⟨c, [], rfl, start⟩
  | cons d r =>
    rw [Name.camelChars]
    split
    · rename_i small
      have lower : d.isLower = true := (Bool.and_eq_true_iff.mp small).2
      exact ⟨_, _, rfl, isIdentifierStart_of_isUpper (isUpper_toUpper lower)⟩
    · exact ⟨_, _, rfl, start⟩

theorem capitalized {s : List Char} (h : BeginsIdentifier s) :
    BeginsIdentifier (Name.capitalized s) := by
  obtain ⟨c, r, rfl, start⟩ := h
  have ascii : c.toNat < 128 :=
    isAlphabet_isWordChar.ascii (isWordChar_of_isIdentifierStart start)
  rw [Name.capitalized, upperChar_of_lt ascii]
  exact ⟨_, _, rfl, isIdentifierStart_toUpper start⟩

/-! ## Number -/

/-- A word of small letters still begins with a letter when it is put in another case. -/
theorem inCaseOf (removed : List Char) {replacement : List Char} (hne : replacement ≠ [])
    (small : ∀ c ∈ replacement, c.isLower = true) :
    BeginsIdentifier (Name.inCaseOf removed replacement) := by
  obtain ⟨c, r, rfl⟩ := List.exists_cons_of_ne_nil hne
  have start : isIdentifierStart c = true :=
    isIdentifierStart_of_isLower (small c List.mem_cons_self)
  unfold Name.inCaseOf
  dsimp only
  split
  · exact ⟨_, _, rfl, isIdentifierStart_toUpper start⟩
  · cases removed with
    | nil => exact ⟨_, _, rfl, start⟩
    | cons first rest =>
      dsimp only
      split
      · exact ⟨_, _, rfl, isIdentifierStart_toUpper start⟩
      · exact ⟨_, _, rfl, start⟩

end BeginsIdentifier

/-- An inflection leaves some of the name, or puts something in its place. -/
theorem inflectionByEnding_leaves {name : List Char} {i : Inflection}
    (h : inflectionByEnding name = some i) : i.length < name.length ∨ i.replacement ≠ "" := by
  unfold inflectionByEnding at h
  split at h
  · cases h
  split at h
  · obtain rfl := Option.some.inj h
    exact .inr (by decide)
  split at h
  case isTrue hes =>
    obtain rfl := Option.some.inj h
    obtain ⟨ending, hending, hends⟩ := List.any_eq_true.mp hes
    have long : ∀ ending ∈ esEndings, 2 < ending.toList.length := by decide
    exact .inl ((long ending hending).trans_le (length_le_of_endsWith hends))
  split at h
  case isTrue hs =>
    obtain rfl := Option.some.inj h
    exact .inl (of_decide_eq_true (Bool.and_eq_true_iff.mp hs).1)
  · cases h

theorem inflection_leaves {name : List Char} {i : Inflection} (h : inflection name = some i) :
    i.length < name.length ∨ i.replacement ≠ "" := by
  unfold inflection at h
  split at h
  · cases h
  · split at h
    case _ irregular hi =>
      obtain rfl := Option.some.inj h
      have words : ∀ i ∈ irregulars, i.singular ≠ "" := by decide
      exact .inr (words irregular (List.mem_of_find?_eq_some hi))
    case _ => exact inflectionByEnding_leaves h

theorem BeginsIdentifier.replaceEnding {name : List Char} (h : BeginsIdentifier name)
    {i : Inflection} (fits : i.Fits name) (leaves : i.length < name.length ∨ i.replacement ≠ "") :
    BeginsIdentifier (Name.replaceEnding name i.length i.replacement) := by
  rw [Name.replaceEnding]
  by_cases hall : i.length < name.length
  · -- The first character is in front of what is replaced.
    obtain ⟨c, r, rfl, start⟩ := h
    have front : 0 < (c :: r).length - i.length := Nat.sub_pos_of_lt hall
    obtain ⟨n, hn⟩ := Nat.exists_eq_add_one_of_ne_zero (Nat.ne_of_gt front)
    rw [hn, List.take_succ_cons]
    exact ⟨c, _, rfl, start⟩
  · have nothing : name.length - i.length = 0 := Nat.sub_eq_zero_of_le (Nat.le_of_not_lt hall)
    have hne : i.replacement.toList ≠ [] := by
      simpa using leaves.resolve_left hall
    rw [nothing, List.take_zero, List.nil_append]
    exact .inCaseOf _ hne fits.small

theorem BeginsIdentifier.singularChars {name : List Char} (h : BeginsIdentifier name) :
    BeginsIdentifier (Name.singularChars name) := by
  rw [singularChars_eq]
  cases hi : inflection name with
  | none => exact h
  | some i => exact h.replaceEnding (fits_inflection hi) (inflection_leaves hi)

/-- The entity of a table that is named by an identifier is named by one. -/
theorem isIdentifier_entity {table : String} (h : isIdentifier table.toList = true) :
    isIdentifier (entity table).toList = true := by
  obtain ⟨begins, word⟩ := isIdentifier_iff.mp h
  refine isIdentifier_iff.mpr ⟨?_, word.entity isAlphabet_isWordChar⟩
  rw [entity, singular, pascal, String.toList_ofList, String.toList_ofList]
  exact begins.camelChars.capitalized.singularChars

/-! ## Stems of files -/

/-- A character of the stem of a file name. -/
def isStemChar (c : Char) : Bool := c.isLower || c.isDigit || c = '_' || c = '-'

/-- The text is the stem of a file name: it is not empty, and has small ASCII letters, digits,
underscores and hyphens only. -/
def isFileStem (s : List Char) : Bool := !s.isEmpty && s.all isStemChar

theorem isStemChar_toLower {c : Char} (h : isHyphenatedChar c = true) :
    isStemChar c.toLower = true := by
  cases hc : c.isUpper with
  | true => simp [isStemChar, isLower_toLower hc]
  | false =>
    rw [toLower_eq_self hc]
    simpa [isHyphenatedChar, isWordChar, isStemChar, Char.isAlphanum, isAlpha_eq, hc] using h

theorem hyphenated_ne_nil {s : List Char} (h : s ≠ []) : hyphenated s ≠ [] := by
  cases s with
  | nil => exact absurd rfl h
  | cons c r =>
    cases r with
    | nil => simp [hyphenated]
    | cons d r =>
      rw [hyphenated]
      split <;> simp

/-- A word in kebab case is the stem of a file name. -/
theorem isFileStem_kebab {name : String} (hne : name.toList ≠ [])
    (word : Within isWordChar name.toList) : isFileStem (kebab name).toList = true := by
  rw [toList_kebab word, isFileStem, Bool.and_eq_true, List.all_eq_true]
  constructor
  · simp [asciiLower, hyphenated_ne_nil hne]
  · intro d hd
    obtain ⟨c, hc, rfl⟩ := List.mem_map.mp hd
    exact isStemChar_toLower (word.hyphenated_word c hc)

end Name

/-! ## Files of a directory -/

namespace Path

/-- The path leads to the entry of the name in the directory, whatever the file tree is: nothing is
found or written through it but that entry. -/
structure IsDirectlyIn (dir name path : String) : Prop where
  names : Path.names path.toList = Path.names dir.toList ++ [name]
  isAbsolute : Path.isAbsolute path.toList = Path.isAbsolute dir.toList
  found : ∀ {tree : FileTree} {l : Location} {node : Node}, tree.status path = .ok (l, node) →
    ∃ d, tree.follow dir = .ok d ∧ tree.node? d = some .directory ∧ l = name :: d
  written : ∀ {tree tree' : FileTree} {content : String},
    tree.writeFile path content = .ok tree' →
      ∃ d, tree.follow dir = .ok d ∧ tree.node? d = some .directory ∧
        tree' = tree.set (name :: d) (.file content)

theorem IsEntry.isDirectlyIn {name : String} (h : IsEntry name) (dir : String) :
    IsDirectlyIn dir name (Path.join dir name) where
  names := names_join dir h.isName
  isAbsolute := isAbsolute_join dir h.isName
  found hs := by
    obtain ⟨d, hd, directory, hl, -⟩ := FileTree.status_join h hs
    exact ⟨d, hd, directory, hl⟩
  written hw := by
    obtain ⟨d, admits, htree⟩ := (FileTree.writeFile_join h).mp hw
    exact ⟨d, admits.follow, admits.directory, htree⟩

end Path

namespace Name

theorem IsWord.of_isIdentifier {name : String} (h : isIdentifier name.toList = true) :
    IsWord name := by
  obtain ⟨⟨c, r, hname, -⟩, word⟩ := isIdentifier_iff.mp h
  refine ⟨fun empty => ?_, List.all_eq_true.mpr word⟩
  rw [empty] at hname
  cases hname

/-- A table that is named by an identifier names its entity by an identifier, and its model's file
by a stem and `.ts`. The file has no way out of the directory that it is joined to. -/
theorem identifier_names {table : String} (h : isIdentifier table.toList = true) :
    isIdentifier (entity table).toList = true ∧
      (∃ stem, modelFile table = stem ++ ".ts" ∧ isFileStem stem.toList = true) ∧
      Path.IsEntry (modelFile table) ∧
      ∀ dir, Path.IsDirectlyIn dir (modelFile table) (Path.join dir (modelFile table)) := by
  have identifier := isIdentifier_entity h
  obtain ⟨⟨c, r, hentity, -⟩, word⟩ := isIdentifier_iff.mp identifier
  have entry : Path.IsEntry (modelFile table) := (IsWord.of_isIdentifier h).modelFile
  have stem : isFileStem (kebab (entity table)).toList = true :=
    isFileStem_kebab (by simp [hentity]) word
  exact ⟨identifier, ⟨kebab (entity table), rfl, stem⟩, entry, entry.isDirectlyIn⟩

/-- A short name that is all ending, with an underscore in front. -/
theorem identifier_names_xes :
    isIdentifier "_xes".toList = true ∧
      isIdentifier (entity "_xes").toList = true ∧
      (∃ stem, modelFile "_xes" = stem ++ ".ts" ∧ isFileStem stem.toList = true) ∧
      Path.IsEntry (modelFile "_xes") ∧
      ∀ dir, Path.IsDirectlyIn dir (modelFile "_xes") (Path.join dir (modelFile "_xes")) :=
  have named : isIdentifier "_xes".toList = true := by decide
  ⟨named, identifier_names named⟩

/-- The entity keeps one letter. -/
example : entity "_xes" = "X" ∧ modelFile "_xes" = "x.ts" := by decide +kernel

end Name

end WideColumn
