import WideColumn.Name.Singular
import WideColumn.Proofs.Text.AsciiCase

/-!
# Plurals

A singular form has been made from the form itself, or from a plural. For most forms the only plural
is the one with an `s` behind, and the forms that have others can be told by their endings: each of
the other rules leaves an ending of its own.

Main definition: `Name.hasOtherPlural`.
Main result: `Name.plural_of_singularChars`.
-/

namespace WideColumn.Name

open Text

/-! ## Endings -/

theorem endsWith_iff {name : List Char} {ending : String} :
    endsWith name ending = true ↔ ∃ stem, asciiLower name = stem ++ ending.toList := by
  rw [endsWith, List.isSuffixOf_iff_suffix]
  constructor
  · rintro ⟨stem, h⟩
    exact ⟨stem, h.symm⟩
  · rintro ⟨stem, h⟩
    exact ⟨stem, h.symm⟩

theorem asciiLower_inCaseOf (removed replacement : List Char) :
    asciiLower (inCaseOf removed replacement) = asciiLower replacement := by
  unfold inCaseOf
  dsimp only
  split
  · exact asciiLower_asciiUpper replacement
  · split
    · split <;> simp
    · rfl

/-- A replaced ending is, but for case, the replacement behind what was in front of the ending. -/
theorem asciiLower_replaceEnding {name stem ending : List Char}
    (h : asciiLower name = stem ++ ending) (replacement : String) :
    asciiLower (replaceEnding name ending.length replacement) =
      stem ++ asciiLower replacement.toList := by
  have hlength : name.length = stem.length + ending.length := by
    rw [← length_asciiLower, h, List.length_append]
  have hstem : asciiLower (name.take (name.length - ending.length)) = stem := by
    rw [asciiLower, List.map_take, ← asciiLower, h, hlength, Nat.add_sub_cancel, List.take_left]
  rw [replaceEnding, asciiLower_append, hstem, asciiLower_inCaseOf]

theorem inCaseOf_nil (removed : List Char) : inCaseOf removed [] = [] := by
  unfold inCaseOf
  dsimp only
  split
  · rfl
  · split
    · contradiction
    · rfl

/-- An ending that is only taken away leaves the front of the name. -/
theorem replaceEnding_empty (name : List Char) (k : Nat) :
    replaceEnding name k "" = name.take (name.length - k) := by
  rw [replaceEnding, String.toList_empty, inCaseOf_nil, List.append_nil]

/-! ## Rules and the endings they leave -/

/-- The ending `y` behind a character other than a vowel, which `ies` is the plural of. -/
def endsWithConsonantY (name : List Char) : Bool :=
  endsWith name "y" &&
    match (asciiLower name).reverse.drop 1 with
    | [] => false
    | c :: _ => !(['a', 'e', 'i', 'o', 'u'].contains c)

/-- The endings that `es` makes the plural of. -/
def singularsOfEs : List String := ["ss", "sh", "ch", "x", "zz", "o"]

/-- The form may be the singular of a plural that is not made with `s` alone. -/
def hasOtherPlural (name : List Char) : Bool :=
  irregulars.any (fun i => endsWith name i.singular) || endsWithConsonantY name ||
    singularsOfEs.any (endsWith name)

theorem hasOtherPlural_irregular {name : List Char} {i : Irregular} (hi : i ∈ irregulars)
    (h : endsWithWord name i.plural = true) :
    hasOtherPlural (replaceEnding name i.plural.toList.length i.singular) = true := by
  have hsmall :
      irregulars.all (fun i => asciiLower i.singular.toList = i.singular.toList) = true := by
    decide
  have hsingular : asciiLower i.singular.toList = i.singular.toList :=
    of_decide_eq_true (List.all_eq_true.mp hsmall i hi)
  obtain ⟨stem, hstem⟩ := endsWith_iff.mp (Bool.and_eq_true_iff.mp h).1
  -- The replacement may be in capitals, which endings do not look at.
  have hends : endsWith (replaceEnding name i.plural.toList.length i.singular) i.singular = true :=
    endsWith_iff.mpr ⟨stem, by rw [asciiLower_replaceEnding hstem, hsingular]⟩
  rw [hasOtherPlural, List.any_eq_true.mpr ⟨i, hi, hends⟩, Bool.true_or, Bool.true_or]

theorem hasOtherPlural_ies {name : List Char} (h : endsWithConsonantIes name = true) :
    hasOtherPlural (replaceEnding name 3 "y") = true := by
  obtain ⟨hends, hconsonant⟩ := Bool.and_eq_true_iff.mp h
  obtain ⟨stem, hstem⟩ := endsWith_iff.mp hends
  have hy : asciiLower (replaceEnding name 3 "y") = stem ++ ['y'] :=
    asciiLower_replaceEnding hstem "y"
  have hlast : (asciiLower (replaceEnding name 3 "y")).reverse.drop 1 =
      (asciiLower name).reverse.drop 3 := by
    rw [hy, hstem]
    simp
  have hendsY : endsWithConsonantY (replaceEnding name 3 "y") = true := by
    rw [endsWithConsonantY, hlast, endsWith_iff.mpr ⟨stem, hy⟩, Bool.true_and]
    exact hconsonant
  rw [hasOtherPlural, hendsY, Bool.or_true, Bool.true_or]

theorem hasOtherPlural_es {name : List Char} (h : esEndings.any (endsWith name) = true) :
    hasOtherPlural (replaceEnding name 2 "") = true := by
  have hcut : esEndings.all (fun ending => singularsOfEs.any fun left =>
      ending.toList = left.toList ++ ['e', 's']) = true := by decide
  obtain ⟨ending, hending, hends⟩ := List.any_eq_true.mp h
  obtain ⟨left, hleft, hsplit⟩ := List.any_eq_true.mp (List.all_eq_true.mp hcut ending hending)
  obtain ⟨stem, hstem⟩ := endsWith_iff.mp hends
  have hname : asciiLower name = (stem ++ left.toList) ++ ['e', 's'] := by
    rw [hstem, of_decide_eq_true hsplit, List.append_assoc]
  have hendsLeft : endsWith (replaceEnding name 2 "") left = true :=
    endsWith_iff.mpr ⟨stem, (asciiLower_replaceEnding hname "").trans (List.append_nil _)⟩
  rw [hasOtherPlural, List.any_eq_true.mpr ⟨left, hleft, hendsLeft⟩, Bool.or_true]

/-- An `s` that is taken away was the last character. -/
theorem eq_replaceEnding_append {name : List Char} (h : endsWith name "s" = true) :
    ∃ s, s.toLower = 's' ∧ name = replaceEnding name 1 "" ++ [s] := by
  obtain ⟨stem, hstem⟩ := endsWith_iff.mp h
  obtain ⟨front, back, rfl, -, hback⟩ := asciiLower_eq_append_iff.mp hstem
  obtain ⟨s, rest, rfl, hs, hrest⟩ := asciiLower_eq_cons_iff.mp hback
  obtain rfl : rest = [] := List.map_eq_nil_iff.mp hrest
  refine ⟨s, hs, ?_⟩
  rw [replaceEnding_empty, List.length_append, List.length_singleton, Nat.add_sub_cancel,
    List.take_left]

/-! ## The plurals of a form -/

/-- A form without other plurals is made from itself or from its plural with `s`. -/
theorem plural_of_singularChars {name form : List Char} (hform : hasOtherPlural form = false)
    (h : singularChars name = form) :
    name = form ∨ ∃ s, s.toLower = 's' ∧ name = form ++ [s] := by
  have hregular : ∀ {name : List Char}, hasOtherPlural name = true → name ≠ form := by
    rintro name hname rfl
    exact absurd (hname.symm.trans hform) (by decide)
  -- Each rule but the last leaves an ending that the form does not have.
  unfold singularChars at h
  split at h
  · exact .inl h
  · split at h
    case _ i hi =>
      have hword : endsWithWord name i.plural = true := by simpa using List.find?_some hi
      exact absurd h (hregular (hasOtherPlural_irregular (List.mem_of_find?_eq_some hi) hword))
    case _ =>
      unfold singularByEnding at h
      split at h
      · exact .inl h
      · split at h
        case _ hies => exact absurd h (hregular (hasOtherPlural_ies hies))
        case _ =>
          split at h
          case _ hes => exact absurd h (hregular (hasOtherPlural_es hes))
          case _ =>
            split at h
            case _ hs =>
              obtain ⟨s, hsmall, hname⟩ :=
                eq_replaceEnding_append (Bool.and_eq_true_iff.mp hs).2
              exact .inr ⟨s, hsmall, by rw [← h]; exact hname⟩
            case _ => exact .inl h

end WideColumn.Name
