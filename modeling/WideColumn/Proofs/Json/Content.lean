import WideColumn.Proofs.Json.Grammar

/-!
# What is in a document

A reader that bounds how deep a document nests, or that asks for exact values, asks it of every part
of the document. Here both are reduced to the parts: a bound on the depth holds if it holds of every
element and member, and a document that is well written is exact if all its numerals fit a double,
since then no string in it lacks a text.

Main definition: `Value.numerals`.
Main results: `Value.depthOfMembers_le_iff`, `Spells.isProper`, `Spells.isExact`.
-/

namespace WideColumn.Json

namespace Value

/-! ## Numerals -/

mutual

/-- The numerals of a value, in order. -/
def numerals : Value → List Numeral
  | number n => [n]
  | array elements => numeralsOfElements elements
  | object members => numeralsOfMembers members
  | _ => []

/-- The numerals of several elements. -/
def numeralsOfElements : List Value → List Numeral
  | [] => []
  | v :: r => v.numerals ++ numeralsOfElements r

/-- The numerals of several members. -/
def numeralsOfMembers : List (Option String × Value) → List Numeral
  | [] => []
  | (_, v) :: r => v.numerals ++ numeralsOfMembers r

end

theorem mem_numeralsOfElements {n : Numeral} {elements : List Value} :
    n ∈ numeralsOfElements elements ↔ ∃ v ∈ elements, n ∈ v.numerals := by
  induction elements with
  | nil => simp [numeralsOfElements]
  | cons v r ih => simp [numeralsOfElements, ih]

theorem mem_numeralsOfMembers {n : Numeral} {members : List (Option String × Value)} :
    n ∈ numeralsOfMembers members ↔ ∃ m ∈ members, n ∈ m.2.numerals := by
  induction members with
  | nil => simp [numeralsOfMembers]
  | cons m r ih => simp [numeralsOfMembers, ih]

/-! ## Depth -/

theorem depthOfElements_le_iff {elements : List Value} {k : Nat} :
    depthOfElements elements ≤ k ↔ ∀ v ∈ elements, v.depth ≤ k := by
  induction elements with
  | nil => simp [depthOfElements]
  | cons v r ih => rw [depthOfElements, Nat.max_le, ih, List.forall_mem_cons]

theorem depthOfMembers_le_iff {members : List (Option String × Value)} {k : Nat} :
    depthOfMembers members ≤ k ↔ ∀ m ∈ members, m.2.depth ≤ k := by
  induction members with
  | nil => simp [depthOfMembers]
  | cons m r ih => rw [depthOfMembers, Nat.max_le, ih, List.forall_mem_cons]

end Value

/-! ## Documents -/

mutual

/-- The numerals of a document are numerals of the grammar. -/
theorem Spells.isProper : ∀ {s : List Char} {v : Value}, Spells s v → ∀ n ∈ v.numerals, n.IsProper
  | _, _, .null | _, _, .true | _, _, .false | _, _, .string _ | _, _, .emptyArray _
  | _, _, .emptyObject _ => fun _ hn => absurd hn List.not_mem_nil
  | _, _, .number (.numeral proper _) => fun n hn => by
      obtain rfl := List.mem_singleton.mp hn
      exact proper
  | _, _, .array hparts => hparts.isProper
  | _, _, .object hparts => hparts.isProper
  | _, _, .spaced _ _ hs => hs.isProper

theorem SpellsAll.isProper : ∀ {parts : List (List Char)} {elements : List Value},
    SpellsAll parts elements → ∀ n ∈ Value.numeralsOfElements elements, n.IsProper
  | _, _, .nil => fun _ hn => absurd hn List.not_mem_nil
  | _, _, .cons hs hrest => fun n hn =>
      (List.mem_append.mp hn).elim (hs.isProper n) (hrest.isProper n)

theorem SpellsMembers.isProper : ∀ {parts : List (List Char)}
    {members : List (Option String × Value)}, SpellsMembers parts members →
      ∀ n ∈ Value.numeralsOfMembers members, n.IsProper
  | _, _, .nil => fun _ hn => absurd hn List.not_mem_nil
  | _, _, .cons _ _ _ hs hrest => fun n hn =>
      (List.mem_append.mp hn).elim (hs.isProper n) (hrest.isProper n)

end

mutual

/-- A document is exact if its numerals fit a double. -/
theorem Spells.isExact : ∀ {s : List Char} {v : Value}, Spells s v →
    (∀ n ∈ v.numerals, n.overflows = false) → v.isExact = true
  | _, _, .null, _ | _, _, .true, _ | _, _, .false, _ | _, _, .string _, _
  | _, _, .emptyArray _, _ | _, _, .emptyObject _, _ => rfl
  | _, .number n, .number _, h => by
      have hfits := h n List.mem_cons_self
      rw [Value.isExact, hfits]
      rfl
  | _, _, .array hparts, h => hparts.areExact h
  | _, _, .object hparts, h => hparts.haveExactMembers h
  | _, _, .spaced _ _ hs, h => hs.isExact h

theorem SpellsAll.areExact : ∀ {parts : List (List Char)} {elements : List Value},
    SpellsAll parts elements → (∀ n ∈ Value.numeralsOfElements elements, n.overflows = false) →
      Value.areExact elements = true
  | _, _, .nil, _ => rfl
  | _, _, .cons hs hrest, h => by
      obtain ⟨hfirst, hothers⟩ := List.forall_mem_append.mp h
      rw [Value.areExact, hs.isExact hfirst, hrest.areExact hothers]
      rfl

theorem SpellsMembers.haveExactMembers : ∀ {parts : List (List Char)}
    {members : List (Option String × Value)}, SpellsMembers parts members →
      (∀ n ∈ Value.numeralsOfMembers members, n.overflows = false) →
        Value.haveExactMembers members = true
  | _, _, .nil, _ => rfl
  | _, _, .cons _ _ _ hs hrest, h => by
      obtain ⟨hfirst, hothers⟩ := List.forall_mem_append.mp h
      rw [Value.haveExactMembers, hs.isExact hfirst, hrest.haveExactMembers hothers]
      rfl

end

end WideColumn.Json
