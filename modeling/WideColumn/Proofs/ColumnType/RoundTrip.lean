import WideColumn.Proofs.ColumnType.Meaning
import WideColumn.Proofs.ColumnType.Shape
import WideColumn.Proofs.Text.Run

/-!
# Reading undoes spelling

A spelling of a type is read as that type when at most two families nest in it, and as `unknown`
otherwise: a single argument that nests too deep takes the whole type with it.

The proof is an induction on the spelling. `fits` states its invariant: inside `depth` families a
spelling means its type if the nesting still fits, and nothing at all if it does not.
-/

namespace WideColumn.TypeTerm

open Text

/-! ## Spellings are arguments -/

theorem isPart_of_plain {p : List Char} (hne : p ≠ [])
    (h : p.all isFamilyChar = true) : IsPart p where
  isArgument := isArgument_of_plain fun c hc =>
    not_bracket_of_isFamilyChar (List.all_eq_true.mp h c hc)
  not_blank := by
    obtain ⟨c, r, rfl⟩ := List.exists_cons_of_ne_nil hne
    have hc := List.all_eq_true.mp h c List.mem_cons_self
    simp [allBlank, isBlank_eq_false_of_isFamilyChar hc]

theorem IsPart.pad {before p after : List Char} (hbefore : allBlank before = true)
    (hafter : allBlank after = true) (h : IsPart p) : IsPart (before ++ p ++ after) where
  isArgument := (isArgument_pad_iff hbefore hafter).mpr h.isArgument
  not_blank := by
    have hp : p.all isBlank = false := h.not_blank
    simp [allBlank, hp]

theorem nativeName_plain (t : NativeType) :
    t.name.toList ≠ [] ∧ t.name.toList.all isFamilyChar = true := by
  cases t <;> decide

theorem isArgument_asciiLower_of_plain {p : List Char}
    (h : ∀ c ∈ p, c ≠ '<' ∧ c ≠ '>' ∧ c ≠ ',') : IsArgument (asciiLower p) := by
  refine isArgument_of_plain fun d hd => ?_
  obtain ⟨c, hc, rfl⟩ := List.mem_map.mp hd
  rw [Ne, Ne, Ne, toLower_eq_iff (by decide), toLower_eq_iff (by decide),
    toLower_eq_iff (by decide)]
  exact h c hc

/-! ## Dimensions -/

theorem IsDimension.not_isBlank {dimension : List Char} {n : UInt32}
    (h : IsDimension dimension n) : ∀ c ∈ dimension, isBlank c = false := by
  obtain ⟨digits, hs, -, hdigits, -⟩ := h
  intro c hc
  rcases hs with rfl | rfl
  · exact not_isBlank_of_isDigit (hdigits c hc)
  · rcases List.mem_cons.mp hc with rfl | hc
    · decide
    · exact not_isBlank_of_isDigit (hdigits c hc)

theorem IsDimension.not_bracket {dimension : List Char} {n : UInt32}
    (h : IsDimension dimension n) : ∀ c ∈ dimension, c ≠ '<' ∧ c ≠ '>' ∧ c ≠ ',' := by
  obtain ⟨digits, hs, -, hdigits, -⟩ := h
  intro c hc
  rcases hs with rfl | rfl
  · exact not_bracket_of_isDigit (hdigits c hc)
  · rcases List.mem_cons.mp hc with rfl | hc
    · decide
    · exact not_bracket_of_isDigit (hdigits c hc)

theorem IsDimension.isPart {dimension : List Char} {n : UInt32} (h : IsDimension dimension n) :
    IsPart dimension where
  isArgument := isArgument_of_plain h.not_bracket
  not_blank := by
    obtain ⟨c, r, rfl⟩ : ∃ c r, dimension = c :: r := by
      obtain ⟨digits, rfl | rfl, hne, -⟩ := h
      · exact List.exists_cons_of_ne_nil hne
      · exact ⟨_, _, rfl⟩
    simp [allBlank, h.not_isBlank c List.mem_cons_self]

/-- A dimension is read back, with blanks around it or without. -/
theorem IsDimension.dimension?_read {before dimension after : List Char} {n : UInt32}
    (hbefore : allBlank before = true) (hafter : allBlank after = true)
    (h : IsDimension dimension n) :
    (read (before ++ dimension ++ after)).dimension? = some n := by
  have htrim : trim dimension = dimension :=
    trim_eq_self (fun c hc => h.not_isBlank c (List.mem_of_mem_head? hc))
      (fun c hc => h.not_isBlank c (List.mem_of_getLast? hc))
  have hread : read (before ++ dimension ++ after) = word (String.ofList dimension) := by
    rw [← read_trim, trim_pad hbefore hafter, read_plain, trim_trim, htrim]
    intro c hc
    rw [htrim] at hc
    exact (h.not_bracket c hc).1
  obtain ⟨digits, hs, hne, hdigits, hvalue⟩ := h
  have hdrop : dropPlus dimension = digits := by
    rcases hs with rfl | rfl
    · exact dropPlus_of_isDigit hdigits
    · rfl
  have hbelow : readBelow? UInt32.size dimension = some n.toNat := by
    have hnum : isNumeral digits = true := by simpa [isNumeral, hne] using hdigits
    unfold readBelow?
    rw [hdrop]
    dsimp only
    rw [hnum, hvalue, if_pos (by simpa using n.toNat_lt)]
  rw [hread, dimension?, String.toList_ofList, hbelow, Option.map_some, UInt32.ofNat_toNat]

theorem IsDimension.dimension?_asciiLower {before dimension after : List Char} {n : UInt32}
    (h : IsDimension dimension n) (hbefore : allBlank before = true)
    (hafter : allBlank after = true) :
    (read (asciiLower (before ++ dimension ++ after))).dimension? = some n := by
  rw [asciiLower_append, asciiLower_append, h.asciiLower_eq]
  exact h.dimension?_read (by rwa [allBlank_asciiLower]) (by rwa [allBlank_asciiLower])

/-- A dimension with blanks around it is an argument, whatever case it is folded to. -/
theorem IsDimension.isPart_asciiLower {before dimension after : List Char} {n : UInt32}
    (h : IsDimension dimension n) (hbefore : allBlank before = true)
    (hafter : allBlank after = true) :
    IsPart (asciiLower (before ++ dimension ++ after)) := by
  rw [asciiLower_append, asciiLower_append, h.asciiLower_eq]
  exact h.isPart.pad (by rwa [allBlank_asciiLower]) (by rwa [allBlank_asciiLower])

/-! ## Nesting -/

/-- A result that nests this deep, unless it nests too deep inside `depth` families. -/
def fits {α : Type} (depth nesting : Nat) (x : α) : Option α :=
  if depth + nesting ≤ maxNesting then some x else none

theorem fits_zero {α : Type} {depth : Nat} (h : depth ≤ maxNesting) (x : α) :
    fits depth 0 x = some x := if_pos h

theorem fits_map {α β : Type} (depth nesting : Nat) (x : α) (f : α → β) :
    (fits depth nesting x).map f = fits depth nesting (f x) := by
  unfold fits
  split <;> rfl

/-- A family is one level of its own, and looks for its arguments one level deeper. -/
theorem fits_family {α : Type} {depth nesting : Nat} {x : α} {inner : Option α}
    (hinner : depth + 1 ≤ maxNesting → inner = fits (depth + 1) nesting x) :
    (if depth ≥ maxNesting then none else inner) = fits depth (nesting + 1) x := by
  unfold fits at *
  by_cases hdeep : depth ≥ maxNesting
  · rw [if_pos hdeep, if_neg (by omega)]
  · rw [if_neg hdeep, hinner (by omega), Nat.add_assoc, Nat.add_comm 1]

/-- Of two arguments both have to fit. -/
theorem fits_max {α β γ : Type} (depth m n : Nat) (x : α) (y : β) (f : α → β → γ) :
    ((fits depth m x).bind fun a => (fits depth n y).map (f a)) = fits depth (max m n) (f x y) := by
  unfold fits
  by_cases hm : depth + m ≤ maxNesting
  · rw [if_pos hm, Option.bind_some]
    by_cases hn : depth + n ≤ maxNesting
    · rw [if_pos hn, if_pos (by omega), Option.map_some]
    · rw [if_neg hn, if_neg (by omega), Option.map_none]
  · rw [if_neg hm, Option.bind_none, if_neg (by omega)]

/-! ## The induction on the spelling -/

theorem isFamily_of_asciiLower {family : List Char} {parts : List (List Char)} {name : String}
    (hname : asciiLower family = name.toList)
    (hplain : name.toList ≠ [] ∧ name.toList.all isFamilyChar = true) (hne : parts ≠ [])
    (hparts : ∀ p ∈ parts, IsPart (asciiLower p)) :
    IsFamily (asciiLower family) (parts.map asciiLower) where
  name_ne_nil := hname ▸ hplain.1
  name_plain := hname ▸ hplain.2
  parts_ne_nil := by simpa using hne
  isPart := by
    intro p hp
    obtain ⟨q, hq, rfl⟩ := List.mem_map.mp hp
    exact hparts q hq

theorem isPart_applied_of_asciiLower {family : List Char} {parts : List (List Char)}
    {name : String} (hname : asciiLower family = name.toList)
    (hplain : name.toList ≠ [] ∧ name.toList.all isFamilyChar = true) (hne : parts ≠ [])
    (hparts : ∀ p ∈ parts, IsPart (asciiLower p)) : IsPart (asciiLower (applied family parts)) := by
  rw [asciiLower_applied]
  exact (isFamily_of_asciiLower hname hplain hne hparts).isPart_applied

/-- Folded to small letters, a family with arguments is read as that family. -/
theorem read_applied_of_asciiLower {family : List Char} {parts : List (List Char)} {name : String}
    (hname : asciiLower family = name.toList)
    (hplain : name.toList ≠ [] ∧ name.toList.all isFamilyChar = true) (hne : parts ≠ [])
    (hparts : ∀ p ∈ parts, IsPart (asciiLower p)) :
    read (asciiLower (applied family parts)) =
      TypeTerm.family name ((parts.map asciiLower).map read) := by
  rw [asciiLower_applied, (isFamily_of_asciiLower hname hplain hne hparts).read_applied, hname,
    String.ofList_toList]

mutual

/-- A spelling can be an argument, so the commas around it do not cut it. -/
theorem Spells.isPart : ∀ {text : List Char} {t : ColumnType}, Spells text t →
    IsPart (asciiLower text)
  | _, _, .native (t := t) hname => by
      rw [hname]
      exact isPart_of_plain (nativeName_plain t).1 (nativeName_plain t).2
  | _, _, .foreign hplain hblank _ =>
      { isArgument := isArgument_asciiLower_of_plain hplain
        not_blank := by rwa [allBlank_asciiLower] }
  | _, _, .padded hbefore hafter htext => by
      rw [asciiLower_append, asciiLower_append]
      exact htext.isPart.pad (by rwa [allBlank_asciiLower]) (by rwa [allBlank_asciiLower])
  | _, _, .frozen hname htext | _, _, .list hname htext | _, _, .set hname htext =>
      isPart_applied_of_asciiLower hname (by decide) (by simp)
        (List.forall_mem_singleton.mpr htext.isPart)
  | _, _, .map hname hkey hvalue =>
      isPart_applied_of_asciiLower hname (by decide) (by simp)
        (List.forall_mem_cons.mpr ⟨hkey.isPart, List.forall_mem_singleton.mpr hvalue.isPart⟩)
  | _, _, .tuple hname hne hparts =>
      isPart_applied_of_asciiLower hname (by decide) hne hparts.isPart
  | _, _, .vector hname htext hbefore hafter hdim =>
      isPart_applied_of_asciiLower hname (by decide) (by simp)
        (List.forall_mem_cons.mpr ⟨htext.isPart,
          List.forall_mem_singleton.mpr (hdim.isPart_asciiLower hbefore hafter)⟩)

theorem SpellsAll.isPart : ∀ {parts : List (List Char)} {ts : List ColumnType},
    SpellsAll parts ts → ∀ p ∈ parts, IsPart (asciiLower p)
  | _, _, .nil => by simp
  | _, _, .cons htext hparts => List.forall_mem_cons.mpr ⟨htext.isPart, hparts.isPart⟩

end

mutual

/-- Inside `depth` families a spelling means its type, unless that nests too deep. -/
theorem Spells.column?_read : ∀ {text : List Char} {t : ColumnType}, Spells text t →
    ∀ {depth : Nat}, depth ≤ maxNesting →
      column? depth (read (asciiLower text)) = fits depth t.nesting t
  | _, _, .native (t := t) hname, depth, hdepth => by
      have hplain : ∀ c ∈ t.name.toList, isFamilyChar c = true :=
        List.all_eq_true.mp (nativeName_plain t).2
      have htrim : trim t.name.toList = t.name.toList :=
        trim_eq_self
          (fun c hc => isBlank_eq_false_of_isFamilyChar (hplain c (List.mem_of_mem_head? hc)))
          (fun c hc => isBlank_eq_false_of_isFamilyChar (hplain c (List.mem_of_getLast? hc)))
      rw [hname, read_plain fun c hc => (not_bracket_of_isFamilyChar (hplain c hc)).1, htrim,
        String.ofList_toList, column?, NativeType.ofName?_name]
      exact (fits_zero hdepth _).symm
  | _, _, .foreign hplain _ hname, depth, hdepth => by
      rw [read_plain, trim_asciiLower, column?, hname]
      · exact (fits_zero hdepth _).symm
      · intro d hd
        obtain ⟨c, hc, rfl⟩ := List.mem_map.mp hd
        rw [Ne, toLower_eq_iff (by decide)]
        exact (hplain c hc).1
  | _, _, .padded hbefore hafter htext, depth, hdepth => by
      rw [asciiLower_append, asciiLower_append, ← read_trim,
        trim_pad (by rwa [allBlank_asciiLower]) (by rwa [allBlank_asciiLower]), read_trim]
      exact htext.column?_read hdepth
  | _, _, .frozen hname htext, depth, hdepth => by
      rw [read_applied_of_asciiLower hname (by decide) (by simp)
        (List.forall_mem_singleton.mpr htext.isPart)]
      exact (column?_frozen _ _).trans (htext.column?_read hdepth)
  | _, _, .list hname htext, depth, _ => by
      rw [read_applied_of_asciiLower hname (by decide) (by simp)
        (List.forall_mem_singleton.mpr htext.isPart)]
      refine (column?_list _ _).trans (fits_family fun h => ?_)
      rw [htext.column?_read h, fits_map]
  | _, _, .set hname htext, depth, _ => by
      rw [read_applied_of_asciiLower hname (by decide) (by simp)
        (List.forall_mem_singleton.mpr htext.isPart)]
      refine (column?_set _ _).trans (fits_family fun h => ?_)
      rw [htext.column?_read h, fits_map]
  | _, _, .map hname hkey hvalue, depth, _ => by
      rw [read_applied_of_asciiLower hname (by decide) (by simp)
        (List.forall_mem_cons.mpr ⟨hkey.isPart, List.forall_mem_singleton.mpr hvalue.isPart⟩)]
      refine (column?_map _ _ _).trans (fits_family fun h => ?_)
      rw [hkey.column?_read h, hvalue.column?_read h, fits_max]
  | _, _, .tuple hname hne hparts, depth, _ => by
      have hcolumns := fun h : depth + 1 ≤ maxNesting => hparts.columns?_read h
      rw [read_applied_of_asciiLower hname (by decide) hne hparts.isPart]
      obtain ⟨p, rest, rfl⟩ := List.exists_cons_of_ne_nil hne
      refine (column?_tuple _ _ _).trans (fits_family fun h => ?_)
      rw [← fits_map, ← hcolumns h]
      rfl
  | _, _, .vector hname htext hbefore hafter hdim, depth, _ => by
      have hpart := hdim.isPart_asciiLower hbefore hafter
      rw [read_applied_of_asciiLower hname (by decide) (by simp)
        (List.forall_mem_cons.mpr ⟨htext.isPart, List.forall_mem_singleton.mpr hpart⟩)]
      refine (column?_vector (hdim.dimension?_asciiLower hbefore hafter)).trans
        (fits_family fun h => ?_)
      rw [htext.column?_read h, fits_map]

theorem SpellsAll.columns?_read : ∀ {parts : List (List Char)} {ts : List ColumnType},
    SpellsAll parts ts → ∀ {depth : Nat}, depth ≤ maxNesting →
      columns? depth ((parts.map asciiLower).map read) = fits depth (ColumnType.nestingOfAll ts) ts
  | _, _, .nil, depth, hdepth => (fits_zero hdepth _).symm
  | _, _, .cons htext hparts, depth, hdepth => by
      rw [List.map_cons, List.map_cons, columns?_cons, htext.column?_read hdepth,
        hparts.columns?_read hdepth, fits_max]
      rfl

end

/-! ## The round trip -/

/-- Reading undoes spelling. A type in which at most two families nest is read from any of its
spellings; a type in which more nest is read as unknown, as a whole. -/
theorem parse_of_spells {raw : String} {t : ColumnType} (h : Spells raw.toList t) :
    (t.nesting ≤ 2 → ColumnType.parse raw = t) ∧
      (3 ≤ t.nesting → ColumnType.parse raw = .unknown) := by
  have hread : ColumnType.parse raw = (fits 0 t.nesting t).getD .unknown := by
    rw [ColumnType.parse, h.column?_read (Nat.zero_le _)]
  unfold fits maxNesting at hread
  constructor
  · intro hfit
    rw [hread, if_pos (by omega), Option.getD_some]
  · intro hdeep
    rw [hread, if_neg (by omega), Option.getD_none]

/-- A map of two families, written with capitals, blanks and a wrapper, and a tuple that nests three
families in its second component only. -/
theorem parse_of_spells_wrapped :
    (Spells " Map<TEXT ,frozen< List<my type>>>".toList (.map (.native .text) (.list .unknown)) ∧
      ColumnType.parse " Map<TEXT ,frozen< List<my type>>>" =
        .map (.native .text) (.list .unknown)) ∧
    (Spells "tuple<int,list<frozen<set<int>>>>".toList
        (.tuple [.native .int, .list (.set (.native .int))]) ∧
      ColumnType.parse "tuple<int,list<frozen<set<int>>>>" = .unknown) := by
  have hkey : Spells ([] ++ "TEXT".toList ++ [' ']) (.native .text) :=
    .padded rfl rfl (.native (by decide))
  have hlist : Spells (applied "List".toList ["my type".toList]) (.list .unknown) :=
    .list (by decide) (.foreign (by simp) (by decide) (by decide))
  have hvalue : Spells
      (applied "frozen".toList [[' '] ++ applied "List".toList ["my type".toList] ++ []])
      (.list .unknown) :=
    .frozen (by decide) (.padded rfl rfl hlist)
  have hmap : Spells " Map<TEXT ,frozen< List<my type>>>".toList
      (.map (.native .text) (.list .unknown)) := by
    have hpadded := Spells.padded (rfl : allBlank [' '] = true) (rfl : allBlank [] = true)
      (.map (by decide : asciiLower "Map".toList = "map".toList) hkey hvalue)
    exact hpadded
  have hint : Spells "int".toList (.native .int) := .native (by decide)
  have hset : Spells (applied "set".toList ["int".toList]) (.set (.native .int)) :=
    .set (by decide) hint
  have hdeep : Spells
      (applied "list".toList [applied "frozen".toList [applied "set".toList ["int".toList]]])
      (.list (.set (.native .int))) :=
    .list (by decide) (.frozen (by decide) hset)
  have htuple : Spells "tuple<int,list<frozen<set<int>>>>".toList
      (.tuple [.native .int, .list (.set (.native .int))]) :=
    Spells.tuple (by decide : asciiLower "tuple".toList = "tuple".toList) (List.cons_ne_nil _ _)
      (.cons hint (.cons hdeep .nil))
  exact ⟨⟨hmap, (parse_of_spells hmap).1 (by decide)⟩,
    ⟨htuple, (parse_of_spells htuple).2 (by decide)⟩⟩

end WideColumn.TypeTerm
