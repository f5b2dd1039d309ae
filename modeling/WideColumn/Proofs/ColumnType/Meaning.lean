import WideColumn.ColumnType.Spelling

/-!
# What a shape means

One equation for each family that has a meaning, and the inversion: `FamilyMeaning` lists every way
in which a family can mean a type. A family counts towards the nesting unless it is `frozen`.
-/

namespace WideColumn.TypeTerm

/-! ## Equations -/

theorem column?_frozen (depth : Nat) (a : TypeTerm) :
    column? depth (family "frozen" [a]) = column? depth a := by
  rw [column?]

theorem column?_list (depth : Nat) (a : TypeTerm) :
    column? depth (family "list" [a]) =
      if depth ≥ maxNesting then none else (column? (depth + 1) a).map .list := by
  rw [column?]

theorem column?_set (depth : Nat) (a : TypeTerm) :
    column? depth (family "set" [a]) =
      if depth ≥ maxNesting then none else (column? (depth + 1) a).map .set := by
  rw [column?]

theorem column?_map (depth : Nat) (a b : TypeTerm) :
    column? depth (family "map" [a, b]) =
      if depth ≥ maxNesting then none
      else (column? (depth + 1) a).bind fun k => (column? (depth + 1) b).map (.map k) := by
  rw [column?]
  cases column? (depth + 1) a <;> cases column? (depth + 1) b <;> simp

theorem column?_tuple (depth : Nat) (a : TypeTerm) (r : List TypeTerm) :
    column? depth (family "tuple" (a :: r)) =
      if depth ≥ maxNesting then none else (columns? (depth + 1) (a :: r)).map .tuple := by
  rw [column?]

theorem column?_vector {depth : Nat} {a b : TypeTerm} {n : UInt32} (hb : b.dimension? = some n) :
    column? depth (family "vector" [a, b]) =
      if depth ≥ maxNesting then none else (column? (depth + 1) a).map (.vector · n) := by
  rw [column?]
  simp [hb]

theorem columns?_cons (depth : Nat) (a : TypeTerm) (r : List TypeTerm) :
    columns? depth (a :: r) =
      (column? depth a).bind fun c => (columns? depth r).map (c :: ·) := by
  rw [columns?]
  cases column? depth a <;> cases columns? depth r <;> rfl

/-! ## Inversion -/

/-- A family with arguments means a type inside `depth` families. -/
inductive FamilyMeaning (depth : Nat) : String → List TypeTerm → ColumnType → Prop
  /-- The name, the number of the arguments or the dimension has no meaning. -/
  | unknown {name : String} {arguments : List TypeTerm} :
      FamilyMeaning depth name arguments .unknown
  | frozen {a : TypeTerm} {t : ColumnType} :
      column? depth a = some t → FamilyMeaning depth "frozen" [a] t
  | list {a : TypeTerm} {t : ColumnType} :
      depth < maxNesting → column? (depth + 1) a = some t →
      FamilyMeaning depth "list" [a] (.list t)
  | set {a : TypeTerm} {t : ColumnType} :
      depth < maxNesting → column? (depth + 1) a = some t →
      FamilyMeaning depth "set" [a] (.set t)
  | map {a b : TypeTerm} {k v : ColumnType} :
      depth < maxNesting → column? (depth + 1) a = some k → column? (depth + 1) b = some v →
      FamilyMeaning depth "map" [a, b] (.map k v)
  | tuple {a : TypeTerm} {r : List TypeTerm} {ts : List ColumnType} :
      depth < maxNesting → columns? (depth + 1) (a :: r) = some ts →
      FamilyMeaning depth "tuple" (a :: r) (.tuple ts)
  | vector {a b : TypeTerm} {t : ColumnType} {n : UInt32} :
      depth < maxNesting → column? (depth + 1) a = some t → b.dimension? = some n →
      FamilyMeaning depth "vector" [a, b] (.vector t n)

theorem familyMeaning_of_column? {depth : Nat} {name : String} {arguments : List TypeTerm}
    {t : ColumnType} (h : column? depth (family name arguments) = some t) :
    FamilyMeaning depth name arguments t := by
  unfold column? at h
  split at h
  · contradiction
  · rename_i a heq
    cases heq
    exact .frozen h
  · obtain rfl := Option.some.inj h
    exact .unknown
  · rename_i name' arguments' heq
    cases heq
    split at h
    · exact absurd h (by simp)
    · rename_i hdepth
      rw [Nat.not_le] at hdepth
      split at h
      · obtain ⟨e, he, rfl⟩ := Option.map_eq_some_iff.mp h
        exact .list hdepth he
      · obtain ⟨e, he, rfl⟩ := Option.map_eq_some_iff.mp h
        exact .set hdepth he
      · split at h
        · rename_i k v hk hv
          obtain rfl := Option.some.inj h
          exact .map hdepth hk hv
        · exact absurd h (by simp)
      · obtain ⟨ts, hts, rfl⟩ := Option.map_eq_some_iff.mp h
        exact .tuple hdepth hts
      · split at h
        · rename_i n hn
          obtain ⟨e, he, rfl⟩ := Option.map_eq_some_iff.mp h
          exact .vector hdepth he hn
        · obtain rfl := Option.some.inj h
          exact .unknown
      · obtain rfl := Option.some.inj h
        exact .unknown

end WideColumn.TypeTerm
