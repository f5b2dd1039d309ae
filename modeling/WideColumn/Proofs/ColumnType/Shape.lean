import WideColumn.Proofs.ColumnType.Grammar

/-!
# The shape that the reader finds

A text is read as a family exactly when it is `name<part,…>` with a plain name and parts that are
arguments of their own; every other text is a word. `IsFamily` names that condition, and
`read_cases` says everything that reading a text can give.
-/

namespace WideColumn.TypeTerm

open Text

/-! ## Plain names -/

theorem isFamilyChar_iff {c : Char} :
    isFamilyChar c = true ↔
      97 ≤ c.toNat ∧ c.toNat ≤ 122 ∨ 48 ≤ c.toNat ∧ c.toNat ≤ 57 ∨ c.toNat = 95 := by
  have hlower : c.isLower = true ↔ 97 ≤ c.toNat ∧ c.toNat ≤ 122 := by
    change (decide ('a' ≤ c) && decide (c ≤ 'z')) = true ↔ _
    rw [Bool.and_eq_true, decide_eq_true_eq, decide_eq_true_eq]
    exact Iff.rfl
  have hunder : c = '_' ↔ c.toNat = 95 := Char.toNat_inj.symm
  rw [isFamilyChar, Bool.or_eq_true, Bool.or_eq_true, hlower, Char.isDigit_iff_toNat,
    decide_eq_true_eq, hunder, or_assoc]
  exact Iff.rfl

theorem isBlank_eq_false_of_isFamilyChar {c : Char} (h : isFamilyChar c = true) :
    isBlank c = false := by
  rw [isFamilyChar_iff] at h
  rw [← Bool.not_eq_true, isBlank_iff]
  simp only [blanks, List.mem_cons, List.not_mem_nil, or_false, exists_eq_or_imp, exists_eq_left]
  omega

theorem not_bracket_of_isFamilyChar {c : Char} (h : isFamilyChar c = true) :
    c ≠ '<' ∧ c ≠ '>' ∧ c ≠ ',' := by
  refine ⟨?_, ?_, ?_⟩ <;> rintro rfl <;> exact absurd h (by decide)

theorem not_bracket_of_isBlank {c : Char} (h : isBlank c = true) :
    c ≠ '<' ∧ c ≠ '>' ∧ c ≠ ',' := by
  refine ⟨?_, ?_, ?_⟩ <;> rintro rfl <;> exact absurd h (by decide)

theorem not_bracket_of_isDigit {c : Char} (h : c.isDigit = true) :
    c ≠ '<' ∧ c ≠ '>' ∧ c ≠ ',' := by
  refine ⟨?_, ?_, ?_⟩ <;> rintro rfl <;> exact absurd h (by decide)

/-! ## Blanks around arguments -/

/-- Blanks are neither brackets nor commas, so they may stand around an argument. -/
theorem isArgument_pad_iff {before s after : List Char} (hbefore : allBlank before = true)
    (hafter : allBlank after = true) : IsArgument (before ++ s ++ after) ↔ IsArgument s := by
  have hkeep : ∀ {b : List Char}, allBlank b = true → ∀ depth,
      depthAfter? (· ≠ ',') depth b = some depth := fun hb =>
    depthAfter?_unmarked fun c hc => not_bracket_of_isBlank (allBlank_iff.mp hb c hc)
  unfold IsArgument
  rw [depthAfter?_append, depthAfter?_append, hkeep hbefore, Option.bind_some,
    funext (hkeep hafter), Option.bind_fun_some]

theorem isArgument_trim_iff {s : List Char} : IsArgument (trim s) ↔ IsArgument s := by
  obtain ⟨before, after, hbefore, hafter, hs⟩ := exists_pad_trim s
  have hpad := isArgument_pad_iff (s := trim s) hbefore hafter
  rw [← hs] at hpad
  exact hpad.symm

theorem any_isEmpty_map_trim_iff {parts : List (List Char)} :
    (parts.map trim).any List.isEmpty = true ↔ ∃ p ∈ parts, allBlank p = true := by
  simp only [List.any_map, List.any_eq_true, Function.comp_apply, List.isEmpty_iff, trim_eq_nil_iff]

/-! ## Families and their parts -/

/-- The text can stand as an argument of a family. -/
structure IsPart (p : List Char) : Prop where
  isArgument : IsArgument p
  not_blank : allBlank p = false

/-- The name and the parts make a text that is read as a family. -/
structure IsFamily (name : List Char) (parts : List (List Char)) : Prop where
  name_ne_nil : name ≠ []
  name_plain : name.all isFamilyChar = true
  parts_ne_nil : parts ≠ []
  isPart : ∀ p ∈ parts, IsPart p

theorem IsFamily.plain {name : List Char} {parts : List (List Char)} (h : IsFamily name parts)
    {c : Char} (hc : c ∈ name) : isFamilyChar c = true :=
  List.all_eq_true.mp h.name_plain c hc

theorem splitFamily_eq_some_iff {s name inside : List Char} :
    splitFamily s = some (name, inside) ↔
      s = name ++ '<' :: (inside ++ ['>']) ∧ name ≠ [] ∧ name.all isFamilyChar = true ∧
        IsBalanced inside := by
  unfold splitFamily
  dsimp only
  constructor
  · intro h
    cases hd : s.dropWhile (· ≠ '<') with
    | nil =>
      rw [hd] at h
      exact absurd h (by simp)
    | cons c rest =>
      have hc : c = '<' := by
        have := List.head?_dropWhile_not (· ≠ '<') s
        rw [hd] at this
        simpa using this
      rw [hd] at h
      dsimp only at h
      split at h
      · rename_i hname
        rw [Bool.and_eq_true, Bool.not_eq_true', List.isEmpty_eq_false_iff] at hname
        obtain ⟨t, ht, heq⟩ := Option.map_eq_some_iff.mp h
        obtain ⟨hn, rfl⟩ := Prod.mk.inj heq
        obtain ⟨hrest, hbal⟩ := beforeClose_eq_some_iff.mp ht
        refine ⟨?_, hn ▸ hname.1, hn ▸ hname.2, hbal⟩
        calc s = s.takeWhile (· ≠ '<') ++ s.dropWhile (· ≠ '<') :=
              List.takeWhile_append_dropWhile.symm
          _ = name ++ '<' :: (t ++ ['>']) := by rw [hn, hd, hc, hrest]
      · exact absurd h (by simp)
  · rintro ⟨rfl, hne, hname, hbal⟩
    have hall : ∀ c ∈ name, (decide (c ≠ '<')) = true := fun c hc =>
      decide_eq_true (not_bracket_of_isFamilyChar (List.all_eq_true.mp hname c hc)).1
    have htake : (name ++ '<' :: (inside ++ ['>'])).takeWhile (· ≠ '<') = name := by
      rw [List.takeWhile_append_of_pos hall, List.takeWhile_cons_of_neg (by simp), List.append_nil]
    have hdrop : (name ++ '<' :: (inside ++ ['>'])).dropWhile (· ≠ '<')
        = '<' :: (inside ++ ['>']) := by
      rw [List.dropWhile_append_of_pos hall, List.dropWhile_cons_of_neg (by simp)]
    have hclose : beforeClose 0 (inside ++ ['>']) = some inside :=
      beforeClose_eq_some_iff.mpr ⟨rfl, hbal⟩
    have hcond : (!name.isEmpty && name.all isFamilyChar) = true := by
      rw [hname, Bool.and_true, Bool.not_eq_true', List.isEmpty_eq_false_iff]
      exact hne
    rw [htake, hdrop]
    dsimp only
    rw [if_pos hcond, hclose]
    rfl

theorem splitArguments_eq_some_iff {s : List Char} {arguments : List (List Char)} :
    splitArguments s = some arguments ↔
      ∃ parts, parts ≠ [] ∧ s = [','].intercalate parts ∧ (∀ p ∈ parts, IsPart p) ∧
        arguments = parts.map trim := by
  have hblank : ∀ parts : List (List Char),
      ¬ (parts.map trim).any List.isEmpty = true ↔ ∀ p ∈ parts, allBlank p = false := by
    intro parts
    rw [any_isEmpty_map_trim_iff]
    simp
  unfold splitArguments
  constructor
  · intro h
    split at h
    · exact absurd h (by simp)
    · rename_i parts hcut
      obtain ⟨hne, hs, hargs⟩ := cutAtCommas_eq_some_iff.mp hcut
      split at h
      · exact absurd h (by simp)
      · rename_i hany
        rw [hblank] at hany
        exact ⟨parts, hne, hs, fun p hp => ⟨hargs p hp, hany p hp⟩, (Option.some.inj h).symm⟩
  · rintro ⟨parts, hne, rfl, hparts, rfl⟩
    have hcut : cutAtCommas 0 ([','].intercalate parts) = some parts :=
      cutAtCommas_eq_some_iff.mpr ⟨hne, rfl, fun p hp => (hparts p hp).isArgument⟩
    have hany := (hblank parts).mpr fun p hp => (hparts p hp).not_blank
    rw [hcut]
    dsimp only
    rw [if_neg hany]

theorem IsFamily.splitFamily_applied {name : List Char} {parts : List (List Char)}
    (h : IsFamily name parts) :
    splitFamily (applied name parts) = some (name, [','].intercalate parts) :=
  splitFamily_eq_some_iff.mpr ⟨rfl, h.name_ne_nil, h.name_plain,
    isBalanced_intercalate fun p hp => (h.isPart p hp).isArgument⟩

theorem IsFamily.trim_applied {name : List Char} {parts : List (List Char)}
    (h : IsFamily name parts) : trim (applied name parts) = applied name parts := by
  apply trim_eq_self
  · obtain ⟨c, r, rfl⟩ := List.exists_cons_of_ne_nil h.name_ne_nil
    intro d hd
    obtain rfl : c = d := by simpa [applied] using hd
    exact isBlank_eq_false_of_isFamilyChar (h.plain List.mem_cons_self)
  · intro d hd
    have hlast : (applied name parts).getLast? = some '>' := by
      rw [applied, ← List.cons_append, ← List.append_assoc, List.getLast?_concat]
    rw [hlast] at hd
    obtain rfl : '>' = d := Option.some.inj hd
    decide

/-- An applied family can itself be an argument. -/
theorem IsFamily.isPart_applied {name : List Char} {parts : List (List Char)}
    (h : IsFamily name parts) : IsPart (applied name parts) where
  isArgument := by
    have hname : IsArgument name :=
      isArgument_of_plain fun c hc => not_bracket_of_isFamilyChar (h.plain hc)
    have hinside := isBalanced_intercalate fun p hp => (h.isPart p hp).isArgument
    exact hname.append hinside.isArgument_bracket
  not_blank := by
    obtain ⟨c, r, rfl⟩ := List.exists_cons_of_ne_nil h.name_ne_nil
    have hc := isBlank_eq_false_of_isFamilyChar (h.plain List.mem_cons_self)
    simp [applied, allBlank, hc]

/-! ## Reading -/

/-- Reading without the bookkeeping of its termination. -/
theorem read_eq (s : List Char) :
    read s =
      match splitFamily (trim s) with
      | none => word (String.ofList (trim s))
      | some (name, inside) =>
        match splitArguments inside with
        | none => word (String.ofList (trim s))
        | some arguments => family (String.ofList name) (arguments.map read) := by
  rw [read]
  split <;> rename_i hs <;> rw [hs]
  dsimp only
  split <;> rename_i ha <;> rw [ha]
  simp

/-- Only the core of a text is read. -/
theorem read_trim (s : List Char) : read (trim s) = read s := by
  rw [read_eq, read_eq s, trim_trim]

theorem IsFamily.read_applied {name : List Char} {parts : List (List Char)}
    (h : IsFamily name parts) :
    read (applied name parts) = family (String.ofList name) (parts.map read) := by
  have hargs : splitArguments ([','].intercalate parts) = some (parts.map trim) :=
    splitArguments_eq_some_iff.mpr ⟨parts, h.parts_ne_nil, rfl, h.isPart, rfl⟩
  rw [read_eq, h.trim_applied, h.splitFamily_applied]
  dsimp only
  rw [hargs]
  simp [Function.comp_def, read_trim]

/-- A text is a word, or a family whose parts are read by themselves. -/
theorem read_cases (s : List Char) :
    read s = word (String.ofList (trim s)) ∨
      ∃ name parts, IsFamily name parts ∧ trim s = applied name parts ∧
        read s = family (String.ofList name) (parts.map read) := by
  cases hfam : splitFamily (trim s) with
  | none => exact .inl (by rw [read_eq, hfam])
  | some found =>
    obtain ⟨name, inside⟩ := found
    cases hargs : splitArguments inside with
    | none =>
      refine .inl ?_
      rw [read_eq, hfam]
      dsimp only
      rw [hargs]
    | some arguments =>
      obtain ⟨hs, hne, hname, -⟩ := splitFamily_eq_some_iff.mp hfam
      obtain ⟨parts, hparts, rfl, hpart, rfl⟩ := splitArguments_eq_some_iff.mp hargs
      have hfamily : IsFamily name parts := ⟨hne, hname, hparts, hpart⟩
      refine .inr ⟨name, parts, hfamily, hs, ?_⟩
      rw [← read_trim, hs]
      exact hfamily.read_applied

/-- A text without brackets is a word. -/
theorem read_plain {s : List Char} (h : ∀ c ∈ s, c ≠ '<') :
    read s = word (String.ofList (trim s)) := by
  rcases read_cases s with hword | ⟨name, parts, -, hs, -⟩
  · exact hword
  · obtain ⟨b, a, -, -, hpad⟩ := exists_pad_trim s
    have hmem : '<' ∈ s := by
      rw [hpad, hs]
      simp [applied]
    exact absurd rfl (h '<' hmem)

end WideColumn.TypeTerm
