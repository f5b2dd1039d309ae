import WideColumn.Name.Model
import WideColumn.Proofs.Text.AsciiCase

/-!
# The alphabet of a name

The mappings of names move ASCII letters only, drop characters, and put in ASCII letters of their
own and a hyphen. So a name over ASCII characters stays in every alphabet that has all letters, and
its file name does too if the alphabet has the hyphen.

Main definitions: `IsAlphabet`, `Within`.
-/

namespace WideColumn.Name

open Text

/-- A set of ASCII characters that has all letters. -/
structure IsAlphabet (p : Char → Bool) : Prop where
  ascii : ∀ {c : Char}, p c = true → c.toNat < 128
  letter : ∀ {c : Char}, c.isAlpha = true → p c = true

/-- All characters of a text are of the alphabet. -/
def Within (p : Char → Bool) (s : List Char) : Prop := ∀ c ∈ s, p c = true

variable {p : Char → Bool}

namespace IsAlphabet

theorem toUpper (hp : IsAlphabet p) {c : Char} (h : p c = true) : p c.toUpper = true := by
  cases hc : c.isLower with
  | true => exact hp.letter (Bool.or_eq_true_iff.mpr (.inl (isUpper_toUpper hc)))
  | false => rwa [toUpper_eq_self hc]

theorem toLower (hp : IsAlphabet p) {c : Char} (h : p c = true) : p c.toLower = true := by
  cases hc : c.isUpper with
  | true => exact hp.letter (Bool.or_eq_true_iff.mpr (.inr (isLower_toLower hc)))
  | false => rwa [toLower_eq_self hc]

end IsAlphabet

/-! ## Small letters -/

theorem lowerFrom_of_ascii {s : List Char} (h : ∀ c ∈ s, c.toNat < 128) :
    ∀ before, lowerFrom before s = asciiLower s := by
  induction s with
  | nil => exact fun _ => rfl
  | cons c r ih =>
    intro before
    have ascii := h c List.mem_cons_self
    -- Only the capital sigma depends on what is around it.
    have : c ≠ capitalSigma := fun e => by
      rw [e] at ascii
      exact absurd ascii (by decide)
    rw [lowerFrom, if_neg this, lowerChar_of_lt ascii,
      ih fun d hd => h d (List.mem_cons_of_mem c hd)]
    rfl

/-- In an ASCII text each letter has its small form wherever it stands. -/
theorem lower_of_ascii {s : List Char} (h : ∀ c ∈ s, c.toNat < 128) : lower s = asciiLower s :=
  lowerFrom_of_ascii h []

namespace Within

theorem nil : Within p [] := by simp [Within]

theorem cons {c : Char} {s : List Char} (hc : p c = true) (hs : Within p s) :
    Within p (c :: s) := by
  simpa [Within] using ⟨hc, hs⟩

theorem append {s t : List Char} (hs : Within p s) (ht : Within p t) : Within p (s ++ t) := by
  intro c hc
  rcases List.mem_append.1 hc with hc | hc
  · exact hs c hc
  · exact ht c hc

theorem of_sublist {s t : List Char} (h : s.Sublist t) (ht : Within p t) : Within p s :=
  fun c hc => ht c (h.subset hc)

theorem head {c : Char} {s : List Char} (h : Within p (c :: s)) : p c = true :=
  h c List.mem_cons_self

theorem tail {c : Char} {s : List Char} (h : Within p (c :: s)) : Within p s :=
  fun d hd => h d (List.mem_cons_of_mem c hd)

theorem not_mem {s : List Char} (h : Within p s) {mark : Char} (hmark : p mark = false) :
    mark ∉ s :=
  fun hmem => absurd (h mark hmem) (by simp [hmark])

theorem asciiUpper (hp : IsAlphabet p) {s : List Char} (h : Within p s) :
    Within p (asciiUpper s) := by
  intro c hc
  obtain ⟨d, hd, rfl⟩ := List.mem_map.1 hc
  exact hp.toUpper (h d hd)

/-! ## Case -/

theorem camelChars (hp : IsAlphabet p) :
    ∀ {s : List Char}, Within p s → Within p (Name.camelChars s)
  | [], _ => nil
  | [c], h => h
  | c :: d :: r, h => by
    rw [Name.camelChars]
    split
    · exact cons (hp.toUpper h.tail.head) (camelChars hp h.tail.tail)
    · exact cons h.head (camelChars hp h.tail)

theorem capitalized (hp : IsAlphabet p) {s : List Char} (h : Within p s) :
    Within p (Name.capitalized s) := by
  cases s with
  | nil => exact nil
  | cons c r =>
    rw [Name.capitalized, upperChar_of_lt (hp.ascii h.head)]
    exact cons (hp.toUpper h.head) h.tail

theorem hyphenated (hyphen : p '-' = true) :
    ∀ {s : List Char}, Within p s → Within p (Name.hyphenated s)
  | [], _ => nil
  | [c], h => h
  | c :: d :: r, h => by
    rw [Name.hyphenated]
    split
    · exact cons h.head (cons hyphen (hyphenated hyphen h.tail))
    · exact cons h.head (hyphenated hyphen h.tail)

theorem asciiLower (hp : IsAlphabet p) {s : List Char} (h : Within p s) :
    Within p (asciiLower s) := by
  intro c hc
  obtain ⟨d, hd, rfl⟩ := List.mem_map.1 hc
  exact hp.toLower (h d hd)

theorem lower (hp : IsAlphabet p) {s : List Char} (h : Within p s) : Within p (Text.lower s) := by
  rw [lower_of_ascii fun c hc => hp.ascii (h c hc)]
  exact h.asciiLower hp

/-! ## Number -/

theorem inCaseOf (hp : IsAlphabet p) (removed : List Char) {replacement : List Char}
    (h : Within p replacement) : Within p (Name.inCaseOf removed replacement) := by
  unfold Name.inCaseOf
  dsimp only
  split
  · exact h.asciiUpper hp
  · split
    · split
      · exact cons (hp.toUpper h.head) h.tail
      · exact h
    · exact h

theorem replaceEnding (hp : IsAlphabet p) {name : List Char} (h : Within p name) (k : Nat)
    {replacement : String} (hr : Within p replacement.toList) :
    Within p (Name.replaceEnding name k replacement) :=
  append (of_sublist (List.take_sublist _ _) h) (inCaseOf hp _ hr)

theorem irregular (hp : IsAlphabet p) {i : Irregular} (h : i ∈ irregulars) :
    Within p i.singular.toList := by
  have letters : irregulars.all (fun i => i.singular.toList.all Char.isAlpha) = true := by decide
  intro c hc
  exact hp.letter (List.all_eq_true.1 (List.all_eq_true.1 letters i h) c hc)

theorem singularByEnding (hp : IsAlphabet p) {name : List Char} (h : Within p name) :
    Within p (Name.singularByEnding name) := by
  unfold Name.singularByEnding
  split
  · exact h
  · split
    · refine h.replaceEnding hp 3 fun c hc => hp.letter ?_
      obtain rfl : c = 'y' := List.mem_singleton.mp hc
      decide
    · split
      · exact h.replaceEnding hp 2 nil
      · split
        · exact h.replaceEnding hp 1 nil
        · exact h

theorem singularChars (hp : IsAlphabet p) {name : List Char} (h : Within p name) :
    Within p (Name.singularChars name) := by
  unfold Name.singularChars
  split
  · exact h
  · split
    case _ i hi => exact h.replaceEnding hp _ (irregular hp (List.mem_of_find?_eq_some hi))
    case _ => exact h.singularByEnding hp

/-! ## The names of a model -/

theorem entity (hp : IsAlphabet p) {table : String} (h : Within p table.toList) :
    Within p (Name.entity table).toList := by
  unfold Name.entity singular pascal
  rw [String.toList_ofList, String.toList_ofList]
  exact ((h.camelChars hp).capitalized hp).singularChars hp

theorem kebab (hp : IsAlphabet p) (hyphen : p '-' = true) {name : String}
    (h : Within p name.toList) : Within p (Name.kebab name).toList := by
  unfold Name.kebab
  rw [String.toList_ofList]
  exact (h.hyphenated hyphen).lower hp

end Within

end WideColumn.Name
