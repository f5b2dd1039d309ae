import WideColumn.ColumnType.Basic
import WideColumn.Text.Ascii
import WideColumn.Text.Blank
import WideColumn.Text.Digits

/-!
# Reading the catalog's spelling of a type

The catalog spells a parameterized type as `family<argument, …>`. Reading has two steps. The first
finds the shape: a text whose first bracket is closed by its last character, and whose arguments are
all present, is a family with its arguments; any other text is a word. The second gives the shape a
meaning: which families exist, how many arguments they take, and how deep they may nest.

Reading never fails. A shape without a meaning is the type `unknown`, and so is a whole type that
nests more than two families; the wrapper `frozen` does not count, since it changes how a value is
stored and not what it is.

Main definitions: `TypeTerm`, `TypeTerm.read`, `TypeTerm.column?`, `ColumnType.parse`.
-/

namespace WideColumn

open Text

/-- The shape of a type's spelling. -/
inductive TypeTerm where
  /-- A text that is not of the form `family<…>`. -/
  | word (text : String)
  /-- A family applied to one argument or more. -/
  | family (name : String) (arguments : List TypeTerm)

namespace TypeTerm

/-! ## Brackets -/

/-- A character that the name of a family may have. -/
def isFamilyChar (c : Char) : Bool := c.isLower || c.isDigit || c = '_'

/-- The text before the bracket that closes the outermost one, provided that it is the last
character. `depth` counts the brackets open inside. -/
def beforeClose : (depth : Nat) → List Char → Option (List Char)
  | _, [] => none
  | depth, c :: r =>
    if c = '<' then (beforeClose (depth + 1) r).map (c :: ·)
    else if c = '>' then
      match depth with
      | 0 => if r.isEmpty then some [] else none
      | depth + 1 => (beforeClose depth r).map (c :: ·)
    else (beforeClose depth r).map (c :: ·)

/-- The name of the family and the text between the outer brackets. -/
def splitFamily (s : List Char) : Option (List Char × List Char) :=
  let name := s.takeWhile (· ≠ '<')
  match s.dropWhile (· ≠ '<') with
  | [] => none
  | _ :: inside =>
    if !name.isEmpty && name.all isFamilyChar then (beforeClose 0 inside).map (name, ·) else none

/-- Puts a character in front of the first part. -/
def consFirst (c : Char) : List (List Char) → List (List Char)
  | [] => [[c]]
  | part :: parts => (c :: part) :: parts

/-- The parts between the commas that stand outside all brackets; `depth` counts the brackets open
before the text. Brackets that do not match leave no parts. -/
def cutAtCommas : (depth : Nat) → List Char → Option (List (List Char))
  | depth, [] => if depth = 0 then some [[]] else none
  | depth, c :: r =>
    if c = '<' then (cutAtCommas (depth + 1) r).map (consFirst c)
    else if c = '>' then
      match depth with
      | 0 => none
      | depth + 1 => (cutAtCommas depth r).map (consFirst c)
    else if c = ',' && depth = 0 then (cutAtCommas depth r).map ([] :: ·)
    else (cutAtCommas depth r).map (consFirst c)

/-- The arguments of a family, without the blanks around them. An argument of blanks alone leaves no
arguments. -/
def splitArguments (s : List Char) : Option (List (List Char)) :=
  match cutAtCommas 0 s with
  | none => none
  | some parts => if (parts.map trim).any List.isEmpty then none else some (parts.map trim)

/-! ## Parts are shorter than the whole -/

theorem length_beforeClose {s inside : List Char} :
    ∀ {depth : Nat}, beforeClose depth s = some inside → inside.length < s.length := by
  induction s generalizing inside with
  | nil => intro depth h; simp [beforeClose] at h
  | cons c r ih =>
    intro depth h
    unfold beforeClose at h
    split at h
    · obtain ⟨t, ht, rfl⟩ := Option.map_eq_some_iff.1 h
      have := ih ht
      simp only [List.length_cons]; omega
    · split at h
      · split at h
        · split at h
          · simp only [Option.some.injEq] at h; subst h; simp
          · simp at h
        · obtain ⟨t, ht, rfl⟩ := Option.map_eq_some_iff.1 h
          have := ih ht
          simp only [List.length_cons]; omega
      · obtain ⟨t, ht, rfl⟩ := Option.map_eq_some_iff.1 h
        have := ih ht
        simp only [List.length_cons]; omega

theorem length_splitFamily {s name inside : List Char}
    (h : splitFamily s = some (name, inside)) : inside.length < s.length := by
  simp only [splitFamily] at h
  split at h
  · simp at h
  · rename_i open_ rest hrest
    split at h
    · obtain ⟨t, ht, hp⟩ := Option.map_eq_some_iff.1 h
      simp only [Prod.mk.injEq] at hp
      obtain ⟨_, rfl⟩ := hp
      have h1 := length_beforeClose ht
      have h2 := length_dropWhile_le (· ≠ '<') s
      rw [hrest, List.length_cons] at h2
      omega
    · simp at h

theorem length_of_mem_consFirst {c : Char} {parts : List (List Char)} {p : List Char} {n : Nat}
    (hn : ∀ q ∈ parts, q.length ≤ n) (h : p ∈ consFirst c parts) : p.length ≤ n + 1 := by
  cases parts with
  | nil => simp only [consFirst, List.mem_singleton] at h; subst h; simp
  | cons q qs =>
    simp only [consFirst, List.mem_cons] at h
    rcases h with rfl | h
    · have := hn q (by simp); simp only [List.length_cons]; omega
    · have := hn p (by simp [h]); omega

theorem length_of_mem_cutAtCommas {s : List Char} :
    ∀ {depth : Nat} {parts : List (List Char)}, cutAtCommas depth s = some parts →
      ∀ p ∈ parts, p.length ≤ s.length := by
  induction s with
  | nil =>
    intro depth parts h p hp
    simp only [cutAtCommas] at h
    split at h
    · simp only [Option.some.injEq] at h; subst h
      simp only [List.mem_singleton] at hp; subst hp; simp
    · simp at h
  | cons c r ih =>
    have hpush : ∀ {depth : Nat} {parts : List (List Char)},
        (cutAtCommas depth r).map (consFirst c) = some parts →
          ∀ p ∈ parts, p.length ≤ (c :: r).length := by
      intro depth parts h p hp
      obtain ⟨t, ht, rfl⟩ := Option.map_eq_some_iff.1 h
      exact length_of_mem_consFirst (ih ht) hp
    intro depth parts h p hp
    unfold cutAtCommas at h
    split at h
    · exact hpush h p hp
    · split at h
      · split at h
        · simp at h
        · exact hpush h p hp
      · split at h
        · obtain ⟨t, ht, rfl⟩ := Option.map_eq_some_iff.1 h
          rcases List.mem_cons.1 hp with rfl | hp
          · simp
          · have := ih ht p hp; simp only [List.length_cons]; omega
        · exact hpush h p hp

theorem length_of_mem_splitArguments {s p : List Char} {parts : List (List Char)}
    (h : splitArguments s = some parts) (hp : p ∈ parts) : p.length ≤ s.length := by
  simp only [splitArguments] at h
  split at h
  · simp at h
  · rename_i cut hcut
    split at h
    · simp at h
    · simp only [Option.some.injEq] at h; subst h
      obtain ⟨q, hq, rfl⟩ := List.mem_map.1 hp
      exact Nat.le_trans (length_trim_le q) (length_of_mem_cutAtCommas hcut q hq)

/-! ## Shapes -/

/-- The shape of a spelling in small letters. -/
def read (s : List Char) : TypeTerm :=
  match _ : splitFamily (trim s) with
  | none => word (String.ofList (trim s))
  | some (name, inside) =>
    match _ : splitArguments inside with
    | none => word (String.ofList (trim s))
    | some arguments => family (String.ofList name) (arguments.attach.map fun a => read a.1)
termination_by s.length
decreasing_by
  have h1 := length_of_mem_splitArguments ‹splitArguments inside = _› a.2
  have h2 := length_splitFamily ‹splitFamily (trim s) = _›
  have h3 := length_trim_le s
  omega

/-! ## Meanings -/

/-- Families nest at most this deep. -/
def maxNesting : Nat := 2

/-- The number that a vector's second argument spells, if it fits 32 bits. -/
def dimension? : TypeTerm → Option UInt32
  | word text => (readBelow? UInt32.size text.toList).map UInt32.ofNat
  | family _ _ => none

mutual

/-- The type that a shape means inside `depth` families. There is none when a family nests too
deep. -/
def column? (depth : Nat) : TypeTerm → Option ColumnType
  | word text =>
    match NativeType.ofName? text with
    | some native => some (.native native)
    | none => some .unknown
  | family "frozen" [inner] => inner.column? depth
  | family "frozen" _ => some .unknown
  | family name arguments =>
    if depth ≥ maxNesting then none
    else match name, arguments with
      | "list", [element] => (element.column? (depth + 1)).map .list
      | "set", [element] => (element.column? (depth + 1)).map .set
      | "map", [key, value] =>
        match key.column? (depth + 1), value.column? (depth + 1) with
        | some k, some v => some (.map k v)
        | _, _ => none
      | "tuple", first :: rest => (columns? (depth + 1) (first :: rest)).map .tuple
      | "vector", [element, dimension] =>
        match dimension.dimension? with
        | some n => (element.column? (depth + 1)).map (.vector · n)
        | none => some .unknown
      | _, _ => some .unknown

/-- The types that a list of shapes means; there are none when one of them nests too deep. -/
def columns? (depth : Nat) : List TypeTerm → Option (List ColumnType)
  | [] => some []
  | t :: r =>
    match t.column? depth, columns? depth r with
    | some c, some cs => some (c :: cs)
    | _, _ => none

end

end TypeTerm

/-- The type that the catalog spells as `raw`, in any case and with any blanks around. -/
def ColumnType.parse (raw : String) : ColumnType :=
  ((TypeTerm.read (asciiLower raw.toList)).column? 0).getD .unknown

end WideColumn
