import Mathlib.Data.List.Forall2
import Mathlib.Data.List.Induction
import WideColumn.Proofs.ColumnType.Shape

/-!
# The arguments of a family

Two loops count the brackets of a type's spelling. The bracket search ends where its count first
comes back to zero; the cut at commas must not fall below zero and must end there. Both conditions
are put here into numbers of brackets in front of each place of the text, without a loop. So between
the brackets that the search finds, the cut does not fail on brackets: the arguments of a family are
missing only where one of them is blank.

Main definitions: `BracketsMatch`, `CommasInside`, `IsBareArgument`, `ArePieces`.

* `isBalanced_iff`, `arePieces_iff`: what the two loops find, in these terms.
* `cutAtCommas_ne_none_iff`: the cut fails exactly on brackets that do not match.
* `splitArguments_of_splitFamily`: nothing of the text between the outer brackets is lost.
-/

namespace WideColumn.TypeTerm

open Text

/-! ## Counting brackets -/

/-- No prefix of the text closes more brackets than it opens, and the whole closes all of them. -/
structure BracketsMatch (s : List Char) : Prop where
  closes_le : ∀ t, t <+: s → t.count '>' ≤ t.count '<'
  closes_eq : s.count '>' = s.count '<'

/-- In front of every comma of the text a bracket is open. -/
def CommasInside (s : List Char) : Prop :=
  ∀ t, t ++ [','] <+: s → t.count '>' < t.count '<'

/-- The count goes through the whole text: no bracket closes that was not open, and where none is
open only `allowed` characters stand. -/
structure IsCounted (allowed : Char → Bool) (s : List Char) : Prop where
  closes_le : ∀ t, t <+: s → t.count '>' ≤ t.count '<'
  outside : ∀ t c, t ++ [c] <+: s → c ≠ '<' → c ≠ '>' → allowed c = false →
    t.count '>' < t.count '<'

/-- A step adds what its character opens and takes what it closes, if there is enough to take. -/
theorem bracketStep_eq_some_iff {allowed : Char → Bool} {depth depth' : Nat} {c : Char} :
    bracketStep allowed depth c = some depth' ↔
      depth' + [c].count '>' = depth + [c].count '<' ∧
        (c ≠ '<' → c ≠ '>' → allowed c = false → 0 < depth) := by
  simp only [bracketStep, List.count_singleton, beq_iff_eq]
  cases depth <;> grind

theorem depthAfter?_concat (allowed : Char → Bool) (depth : Nat) (s : List Char) (c : Char) :
    depthAfter? allowed depth (s ++ [c]) =
      (depthAfter? allowed depth s).bind (bracketStep allowed · c) := by
  rw [depthAfter?_append]
  congr 1
  funext mid
  rw [depthAfter?_cons]
  exact Option.bind_fun_some _

theorem isCounted_concat {allowed : Char → Bool} {s : List Char} {c : Char} :
    IsCounted allowed (s ++ [c]) ↔
      IsCounted allowed s ∧ (s ++ [c]).count '>' ≤ (s ++ [c]).count '<' ∧
        (c ≠ '<' → c ≠ '>' → allowed c = false → s.count '>' < s.count '<') := by
  constructor
  · intro h
    have hs : IsCounted allowed s :=
      ⟨fun t ht => h.closes_le t (ht.trans (List.prefix_append s [c])),
        fun t d ht => h.outside t d (ht.trans (List.prefix_append s [c]))⟩
    exact ⟨hs, h.closes_le _ List.prefix_rfl, h.outside s c List.prefix_rfl⟩
  · rintro ⟨hs, hle, hout⟩
    constructor
    · intro t ht
      rcases List.prefix_concat_iff.mp ht with rfl | ht
      · exact hle
      · exact hs.closes_le t ht
    · intro t d ht
      rcases List.prefix_concat_iff.mp ht with heq | ht
      · obtain ⟨rfl, hd⟩ := List.append_inj' heq rfl
        obtain rfl : d = c := List.singleton_inj.mp hd
        exact hout
      · exact hs.outside t d ht

/-- The depth is how many more brackets the text opens than it closes. -/
theorem depthAfter?_eq_some_iff {allowed : Char → Bool} {s : List Char} {depth : Nat} :
    depthAfter? allowed 0 s = some depth ↔
      IsCounted allowed s ∧ depth + s.count '>' = s.count '<' := by
  induction s using List.reverseRecOn generalizing depth with
  | nil =>
    have hnil : IsCounted allowed [] := ⟨by simp, by simp⟩
    simpa [hnil] using eq_comm
  | append_singleton s c ih =>
    simp only [depthAfter?_concat, Option.bind_eq_some_iff, ih, bracketStep_eq_some_iff,
      isCounted_concat, List.count_append]
    constructor
    · rintro ⟨mid, ⟨hs, hmid⟩, hdepth, hout⟩
      refine ⟨⟨hs, by omega, fun ho hc ha => ?_⟩, by omega⟩
      have hinside := hout ho hc ha
      omega
    · rintro ⟨⟨hs, hle, hout⟩, hdepth⟩
      have hopen := hs.closes_le s List.prefix_rfl
      refine ⟨s.count '<' - s.count '>', ⟨hs, by omega⟩, by omega, fun ho hc ha => ?_⟩
      have hinside := hout ho hc ha
      omega

theorem isBalanced_iff {s : List Char} : IsBalanced s ↔ BracketsMatch s := by
  rw [IsBalanced, depthAfter?_eq_some_iff, Nat.zero_add]
  constructor
  · rintro ⟨hs, heq⟩
    exact ⟨hs.closes_le, heq⟩
  · intro h
    exact ⟨⟨h.closes_le, fun _ _ _ _ _ ha => absurd ha (by decide)⟩, h.closes_eq⟩

theorem isArgument_iff {s : List Char} : IsArgument s ↔ BracketsMatch s ∧ CommasInside s := by
  rw [IsArgument, depthAfter?_eq_some_iff, Nat.zero_add]
  constructor
  · rintro ⟨hs, heq⟩
    exact ⟨⟨hs.closes_le, heq⟩, fun t ht => hs.outside t ',' ht (by decide) (by decide) (by decide)⟩
  · rintro ⟨hs, hcommas⟩
    refine ⟨⟨hs.closes_le, fun t c ht _ _ ha => ?_⟩, hs.closes_eq⟩
    obtain rfl : c = ',' := by simpa using ha
    exact hcommas t ht

/-! ## The two loops -/

/-- The cut takes every step that the search takes: a comma outside of all brackets, which its own
count refuses, is where it cuts. -/
theorem exists_cutAtCommas {s : List Char} :
    ∀ {depth : Nat}, depthAfter? (fun _ => true) depth s = some 0 →
      ∃ pieces, cutAtCommas depth s = some pieces := by
  induction s with
  | nil =>
    intro depth h
    obtain rfl : depth = 0 := Option.some.inj h
    exact ⟨[[]], rfl⟩
  | cons c r ih =>
    intro depth h
    rw [depthAfter?_cons, Option.bind_eq_some_iff] at h
    obtain ⟨mid, hmid, hr⟩ := h
    obtain ⟨pieces, hpieces⟩ := ih hr
    rw [cutAtCommas_cons]
    split
    · rename_i hcomma
      obtain ⟨rfl, rfl⟩ := hcomma
      obtain rfl : 0 = mid := Option.some.inj hmid
      exact ⟨[] :: pieces, by rw [hpieces]; rfl⟩
    · rename_i hcomma
      have hstep : bracketStep (· ≠ ',') depth c = some mid := by
        unfold bracketStep at hmid ⊢
        grind
      exact ⟨consFirst c pieces, by rw [hstep, Option.bind_some, hpieces]; rfl⟩

/-- The cut fails exactly on brackets that do not match. -/
theorem cutAtCommas_ne_none_iff {s : List Char} : cutAtCommas 0 s ≠ none ↔ BracketsMatch s := by
  rw [← isBalanced_iff, Option.ne_none_iff_exists']
  constructor
  · rintro ⟨pieces, hcut⟩
    obtain ⟨-, rfl, hpieces⟩ := cutAtCommas_eq_some_iff.mp hcut
    exact isBalanced_intercalate hpieces
  · exact exists_cutAtCommas

/-! ## Arguments and pieces -/

/-- The text stands as one argument, and no blanks stand around it. -/
structure IsBareArgument (part : List Char) : Prop where
  ne_nil : part ≠ []
  trimmed : trim part = part
  brackets : BracketsMatch part
  commas : CommasInside part

/-- The piece is the part with blanks around it. -/
def IsPadded (part piece : List Char) : Prop :=
  ∃ before after, allBlank before = true ∧ allBlank after = true ∧ piece = before ++ part ++ after

/-- The commas outside of brackets cut the text into the pieces. -/
structure ArePieces (s : List Char) (pieces : List (List Char)) : Prop where
  ne_nil : pieces ≠ []
  joined : s = [','].intercalate pieces
  matched : ∀ piece ∈ pieces, BracketsMatch piece ∧ CommasInside piece

theorem IsPart.isBareArgument_trim {piece : List Char} (h : IsPart piece) :
    IsBareArgument (trim piece) := by
  obtain ⟨hbrackets, hcommas⟩ := isArgument_iff.mp (isArgument_trim_iff.mpr h.isArgument)
  refine ⟨?_, trim_trim piece, hbrackets, hcommas⟩
  rw [Ne, trim_eq_nil_iff, h.not_blank]
  decide

theorem arePieces_iff {s : List Char} {pieces : List (List Char)} :
    ArePieces s pieces ↔ cutAtCommas 0 s = some pieces := by
  rw [cutAtCommas_eq_some_iff]
  simp only [isArgument_iff]
  constructor
  · intro h
    exact ⟨h.ne_nil, h.joined, h.matched⟩
  · rintro ⟨hne, hs, hpieces⟩
    exact ⟨hne, hs, hpieces⟩

theorem splitArguments_eq_none_iff {s : List Char} {pieces : List (List Char)}
    (h : cutAtCommas 0 s = some pieces) :
    splitArguments s = none ↔ ∃ piece ∈ pieces, allBlank piece = true := by
  rw [← any_isEmpty_map_trim_iff, splitArguments, h]
  simp

/-- The arguments are the pieces without the blanks around them. -/
theorem forall₂_isPadded_of_splitArguments {s : List Char} {pieces parts : List (List Char)}
    (hcut : cutAtCommas 0 s = some pieces) (h : splitArguments s = some parts) :
    (∀ part ∈ parts, IsBareArgument part) ∧ List.Forall₂ IsPadded parts pieces := by
  obtain ⟨raws, hne, hs, hraws, rfl⟩ := splitArguments_eq_some_iff.mp h
  obtain rfl : pieces = raws := by
    have hraw : cutAtCommas 0 s = some raws :=
      cutAtCommas_eq_some_iff.mpr ⟨hne, hs, fun p hp => (hraws p hp).isArgument⟩
    exact Option.some.inj (hcut.symm.trans hraw)
  constructor
  · intro part hpart
    obtain ⟨piece, hpiece, rfl⟩ := List.mem_map.mp hpart
    exact (hraws piece hpiece).isBareArgument_trim
  · rw [List.forall₂_map_left_iff, List.forall₂_same]
    exact fun piece _ => exists_pad_trim piece

/-- Between the outer brackets of a family the brackets match, so its arguments are missing only
where one of them is blank. Where they are there, commas join them, each between its blanks, to the
text between the brackets. -/
theorem splitArguments_of_splitFamily {raw name inside : List Char}
    (h : splitFamily raw = some (name, inside)) :
    raw = name ++ '<' :: (inside ++ ['>']) ∧ BracketsMatch inside ∧
      ∃ pieces, cutAtCommas 0 inside = some pieces ∧ ArePieces inside pieces ∧
        (splitArguments inside = none ↔ ∃ piece ∈ pieces, allBlank piece = true) ∧
        ∀ parts, splitArguments inside = some parts →
          (∀ part ∈ parts, IsBareArgument part) ∧ List.Forall₂ IsPadded parts pieces := by
  obtain ⟨hraw, -, -, hbalanced⟩ := splitFamily_eq_some_iff.mp h
  have hmatch : BracketsMatch inside := isBalanced_iff.mp hbalanced
  obtain ⟨pieces, hcut⟩ := Option.ne_none_iff_exists'.mp (cutAtCommas_ne_none_iff.mpr hmatch)
  exact ⟨hraw, hmatch, pieces, hcut, arePieces_iff.mpr hcut, splitArguments_eq_none_iff hcut,
    fun _ hparts => forall₂_isPadded_of_splitArguments hcut hparts⟩

/-- A map of two arguments, one with a blank behind it and one with a comma inside, and a map whose
second argument is missing. -/
theorem splitArguments_of_splitFamily_map :
    (splitFamily "map<text ,pair<a,b>>".toList = some ("map".toList, "text ,pair<a,b>".toList) ∧
      BracketsMatch "text ,pair<a,b>".toList ∧
      splitArguments "text ,pair<a,b>".toList = some ["text".toList, "pair<a,b>".toList] ∧
      IsBareArgument "pair<a,b>".toList ∧
      ∃ pieces, ArePieces "text ,pair<a,b>".toList pieces ∧
        List.Forall₂ IsPadded ["text".toList, "pair<a,b>".toList] pieces) ∧
    (splitFamily "map<text, >".toList = some ("map".toList, "text, ".toList) ∧
      BracketsMatch "text, ".toList ∧
      splitArguments "text, ".toList = none ∧
      ∃ pieces, ArePieces "text, ".toList pieces ∧ ∃ piece ∈ pieces, allBlank piece = true) := by
  have hfamily : splitFamily "map<text ,pair<a,b>>".toList =
      some ("map".toList, "text ,pair<a,b>".toList) := by decide
  have harguments : splitArguments "text ,pair<a,b>".toList =
      some ["text".toList, "pair<a,b>".toList] := by decide
  have hfamily' : splitFamily "map<text, >".toList = some ("map".toList, "text, ".toList) := by
    decide
  have harguments' : splitArguments "text, ".toList = none := by decide
  obtain ⟨-, hmatch, pieces, -, hpieces, -, hparts⟩ := splitArguments_of_splitFamily hfamily
  obtain ⟨hbare, hpadded⟩ := hparts _ harguments
  obtain ⟨-, hmatch', pieces', -, hpieces', hnone, -⟩ := splitArguments_of_splitFamily hfamily'
  exact ⟨⟨hfamily, hmatch, harguments, hbare _ (by simp), pieces, hpieces, hpadded⟩,
    hfamily', hmatch', harguments', pieces', hpieces', hnone.mp harguments'⟩

end WideColumn.TypeTerm
