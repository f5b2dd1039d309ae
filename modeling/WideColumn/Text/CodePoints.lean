/-!
# Sets of code points

The classes of characters that the rules of this library speak of (blank, letter, printable, …) are
large sets with few edges. A set is held as its ranges, and a character belongs to it when some
range covers its code point.

Main definitions: `CodePoints`, `CodePoints.contains`.
-/

namespace WideColumn

/-- A set of code points, given by ranges whose two ends both belong to the set. -/
structure CodePoints where
  /-- The ranges, in increasing order and without overlap. -/
  ranges : List (Nat × Nat)

namespace CodePoints

/-- Some range covers the character. -/
def contains (s : CodePoints) (c : Char) : Bool :=
  s.ranges.any fun r => r.1 ≤ c.toNat && c.toNat ≤ r.2

theorem contains_iff {s : CodePoints} {c : Char} :
    s.contains c = true ↔ ∃ r ∈ s.ranges, r.1 ≤ c.toNat ∧ c.toNat ≤ r.2 := by
  simp [contains, List.any_eq_true]

end CodePoints

end WideColumn
