import Mathlib
import WideColumn.Proofs.Schema.KeyOrder

/-!
# What the diagnostics say about positions

The key columns of one kind should have the positions 0, 1, 2, …, each once. The diagnostics tell
all that is wrong about that and nothing else: one for each pair of neighbours that share a
position, one for each negative position, and one for each run of positions that are missing below
the greatest.

The scan for gaps goes through the sorted keys with the position that it expects next. `IsMissing`
is what it has to find from there on: one step of the scan takes the run of missing positions in
front of a key, if there is one, and leaves what is missing behind it.

Main definitions: `Diagnostic.fault?`, `Table.faults`, `Table.neighbours`, `Table.IsMissing`.
Main result: `Table.faults_account`.
-/

namespace WideColumn

/-- What a diagnostic finds wrong with the positions of a key. -/
inductive PositionFault where
  /-- Two neighbours share a position. -/
  | shared
  /-- A position is below zero. -/
  | negative
  /-- Positions are missing. -/
  | gap
  deriving DecidableEq

/-- The kind of key columns that a diagnostic is about, and what it finds wrong with their
positions. -/
def Diagnostic.fault? : Diagnostic → Option (ColumnKind × PositionFault)
  | unknownType _ _ _ => none
  | duplicatePosition _ kind _ _ _ => some (kind, .shared)
  | positionGap _ kind _ _ => some (kind, .gap)
  | negativePosition _ kind _ _ => some (kind, .negative)

namespace Table

/-- The diagnostics of a table that find a fault with one kind of key columns. -/
def faults (table : Table) (kind : ColumnKind) (fault : PositionFault) : List Diagnostic :=
  table.diagnostics.filter (·.fault? = some (kind, fault))

/-- The pairs of key columns of one kind that are next to one another by position. -/
def neighbours (table : Table) (kind : ColumnKind) : List (Column × Column) :=
  (table.keys kind).zip (table.keys kind).tail

/-! ## Which diagnostics are about a kind -/

section Scans

variable {name : String} {kind : ColumnKind}

theorem fault?_of_mem_sharedPositions (cs : List Column) :
    ∀ d ∈ sharedPositions name kind cs, d.fault? = some (kind, .shared) := by
  induction cs with
  | nil => simp [sharedPositions]
  | cons a cs ih =>
    cases cs with
    | nil => simp [sharedPositions]
    | cons b cs =>
      rw [sharedPositions]
      split
      · exact List.forall_mem_cons.mpr ⟨rfl, ih⟩
      · exact ih

theorem fault?_of_mem_positionFaults (cs : List Column) :
    ∀ expected, ∀ d ∈ positionFaults name kind expected cs,
      d.fault? = some (kind, .negative) ∨ d.fault? = some (kind, .gap) := by
  induction cs with
  | nil => simp [positionFaults]
  | cons c cs ih =>
    intro expected
    rw [positionFaults]
    dsimp only
    split
    · exact List.forall_mem_cons.mpr ⟨.inl rfl, ih _⟩
    · split
      · exact List.forall_mem_cons.mpr ⟨.inr rfl, ih _⟩
      · exact ih _

end Scans

theorem kind_of_mem_keyDiagnostics {table : Table} {kind : ColumnKind} {d : Diagnostic}
    (h : d ∈ table.keyDiagnostics kind) : ∃ fault, d.fault? = some (kind, fault) := by
  rcases List.mem_append.mp h with hd | hd
  · exact ⟨_, fault?_of_mem_sharedPositions _ d hd⟩
  · rcases fault?_of_mem_positionFaults _ _ d hd with hd | hd
    · exact ⟨_, hd⟩
    · exact ⟨_, hd⟩

theorem fault?_of_mem_typeDiagnostics {table : Table} {d : Diagnostic}
    (h : d ∈ table.typeDiagnostics) : d.fault? = none := by
  obtain ⟨c, -, rfl⟩ := List.mem_map.mp h
  rfl

/-- Only the two kinds of keys have faults. -/
theorem isKey_of_fault? {table : Table} {d : Diagnostic} (hd : d ∈ table.diagnostics)
    {kind : ColumnKind} {fault : PositionFault} (h : d.fault? = some (kind, fault)) :
    kind.isKey = true := by
  rw [diagnostics, List.mem_append, List.mem_append] at hd
  rcases hd with (hd | hd) | hd
  · rw [fault?_of_mem_typeDiagnostics hd] at h
    contradiction
  · obtain ⟨_, hfault⟩ := kind_of_mem_keyDiagnostics hd
    rw [hfault] at h
    cases h
    rfl
  · obtain ⟨_, hfault⟩ := kind_of_mem_keyDiagnostics hd
    rw [hfault] at h
    cases h
    rfl

/-- The faults of a key are found by the scans of its columns. -/
theorem faults_eq {kind : ColumnKind} (hkey : kind.isKey = true) (table : Table)
    (fault : PositionFault) :
    table.faults kind fault =
      (table.keyDiagnostics kind).filter (·.fault? = some (kind, fault)) := by
  have htypes : table.typeDiagnostics.filter (·.fault? = some (kind, fault)) = [] := by
    refine List.filter_eq_nil_iff.mpr fun d hd => ?_
    simp [fault?_of_mem_typeDiagnostics hd]
  have hother : ∀ other, other ≠ kind →
      (table.keyDiagnostics other).filter (·.fault? = some (kind, fault)) = [] := by
    intro other hne
    refine List.filter_eq_nil_iff.mpr fun d hd => ?_
    obtain ⟨_, hfault⟩ := kind_of_mem_keyDiagnostics hd
    simp [hfault, hne]
  rw [faults, diagnostics, List.filter_append, List.filter_append, htypes, List.nil_append]
  cases kind with
  | partitionKey => rw [hother .clustering (by decide), List.append_nil]
  | clustering => rw [hother .partitionKey (by decide), List.nil_append]
  | regular => contradiction
  | static => contradiction

/-! ## Shared positions -/

/-- The diagnostic of two neighbours, if they share a position. -/
def sharedPosition? (name : String) (kind : ColumnKind) (pair : Column × Column) :
    Option Diagnostic :=
  if pair.1.position = pair.2.position then
    some (.duplicatePosition name kind pair.1.position.toInt pair.1.name pair.2.name)
  else none

theorem sharedPositions_eq (name : String) (kind : ColumnKind) (cs : List Column) :
    sharedPositions name kind cs = (cs.zip cs.tail).filterMap (sharedPosition? name kind) := by
  induction cs with
  | nil => rfl
  | cons a cs ih =>
    cases cs with
    | nil => rfl
    | cons b cs =>
      have hpairs : (a :: b :: cs).zip (a :: b :: cs).tail =
          (a, b) :: (b :: cs).zip (b :: cs).tail := rfl
      rw [sharedPositions, ih, hpairs]
      by_cases h : a.position = b.position
      · rw [if_pos h, List.filterMap_cons_some (by rw [sharedPosition?, if_pos h])]
      · rw [if_neg h, List.filterMap_cons_none (by rw [sharedPosition?, if_neg h])]

variable {table : Table} {kind : ColumnKind}

theorem faults_shared (hkey : kind.isKey = true) :
    table.faults kind .shared =
      (table.neighbours kind).filterMap (sharedPosition? table.name kind) := by
  have hshared : (sharedPositions table.name kind (table.keys kind)).filter
      (·.fault? = some (kind, .shared)) = sharedPositions table.name kind (table.keys kind) :=
    List.filter_eq_self.mpr fun d hd => decide_eq_true (fault?_of_mem_sharedPositions _ d hd)
  have hothers : (positionFaults table.name kind 0 (table.keys kind)).filter
      (·.fault? = some (kind, .shared)) = [] := by
    refine List.filter_eq_nil_iff.mpr fun d hd => ?_
    rcases fault?_of_mem_positionFaults _ _ d hd with h | h
    · simp [h]
    · simp [h]
  rw [faults_eq hkey, keyDiagnostics, List.filter_append, hshared, hothers, List.append_nil,
    sharedPositions_eq]
  rfl

/-- Of the faults that are no shared positions, the scan for these finds none. -/
theorem faults_of_ne_shared (hkey : kind.isKey = true) {fault : PositionFault}
    (h : fault ≠ .shared) :
    table.faults kind fault = (positionFaults table.name kind 0 (table.keys kind)).filter
      (·.fault? = some (kind, fault)) := by
  have hshared : (sharedPositions table.name kind (table.keys kind)).filter
      (·.fault? = some (kind, fault)) = [] := by
    refine List.filter_eq_nil_iff.mpr fun d hd => ?_
    simp [fault?_of_mem_sharedPositions _ d hd, h.symm]
  rw [faults_eq hkey, keyDiagnostics, List.filter_append, hshared, List.nil_append]

/-- Along sorted columns, each column begins a position or shares that of its neighbour. -/
theorem length_sharedPositions (name : String) {cs : List Column}
    (sorted : cs.Pairwise fun a b => a.position.toInt ≤ b.position.toInt) :
    (sharedPositions name kind cs).length + (cs.map (·.position.toInt)).dedup.length =
      cs.length := by
  induction cs with
  | nil => rfl
  | cons a cs ih =>
    rw [List.pairwise_cons] at sorted
    cases cs with
    | nil => rfl
    | cons b cs =>
      have ih := ih sorted.2
      rw [sharedPositions, List.map_cons]
      by_cases h : a.position = b.position
      · rw [if_pos h, List.dedup_cons_of_mem (by simp [h]), List.length_cons, List.length_cons]
        omega
      · -- What comes behind a greater position is greater, too.
        have hnew : a.position.toInt ∉ (b :: cs).map (·.position.toInt) := by
          intro hmem
          obtain ⟨c, hc, hposition⟩ := List.mem_map.mp hmem
          have hab := sorted.1 b List.mem_cons_self
          have hbc : b.position.toInt ≤ c.position.toInt := by
            rcases List.mem_cons.mp hc with rfl | hc
            · exact Int.le_refl _
            · exact (List.pairwise_cons.mp sorted.2).1 c hc
          exact h (Int32.toInt_inj.mp (Int.le_antisymm hab (hposition ▸ hbc)))
        rw [if_neg h, List.dedup_cons_of_notMem hnew, List.length_cons, List.length_cons]
        omega

/-! ## Negative positions -/

/-- Whatever position is expected, the scan tells of each negative one. -/
theorem filter_negative (name : String) (kind : ColumnKind) (cs : List Column) :
    ∀ expected, (positionFaults name kind expected cs).filter
        (·.fault? = some (kind, .negative)) =
      (cs.filter (·.position.toInt < 0)).map fun c =>
        .negativePosition name kind c.name c.position.toInt := by
  induction cs with
  | nil => exact fun _ => rfl
  | cons c cs ih =>
    intro expected
    rw [positionFaults]
    dsimp only
    by_cases hneg : c.position.toInt < 0
    · rw [if_pos hneg, List.filter_cons_of_pos (by simp [Diagnostic.fault?]),
        List.filter_cons_of_pos (by simpa using hneg), ih, List.map_cons]
    · rw [if_neg hneg, List.filter_cons_of_neg (a := c) (by simpa using hneg)]
      split
      · rw [List.filter_cons_of_neg (by simp [Diagnostic.fault?]), ih]
      · exact ih _

theorem faults_negative (hkey : kind.isKey = true) :
    table.faults kind .negative =
      ((table.keys kind).filter (·.position.toInt < 0)).map fun c =>
        .negativePosition table.name kind c.name c.position.toInt := by
  rw [faults_of_ne_shared hkey (by decide), filter_negative]

/-! ## Missing positions -/

/-- The position is missing among sorted columns from `expected` on: it is below the position of a
column and no column has it. -/
def IsMissing (expected : Int) (cs : List Column) (i : Int) : Prop :=
  expected ≤ i ∧ (∃ c ∈ cs, i < c.position.toInt) ∧ ∀ c ∈ cs, c.position.toInt ≠ i

theorem toInt_le_lastPosition (position : Int32) : position.toInt ≤ lastPosition := by
  have := position.toInt_le
  exact this

section Missing

variable {expected : Int} {c : Column} {cs : List Column}

/-- A negative position is below all that is expected. -/
theorem isMissing_negative (h : 0 ≤ expected) (hneg : c.position.toInt < 0) (i : Int) :
    IsMissing expected (c :: cs) i ↔ IsMissing expected cs i := by
  simp only [IsMissing, List.exists_mem_cons_iff, List.forall_mem_cons]
  constructor
  · rintro ⟨hi, hbelow | hbelow, -, hnone⟩
    · omega
    · exact ⟨hi, hbelow, hnone⟩
  · rintro ⟨hi, hbelow, hnone⟩
    exact ⟨hi, .inr hbelow, by omega, hnone⟩

/-- Behind the last position nothing is missing. -/
theorem not_isMissing_last {i : Int} : ¬ IsMissing lastPosition cs i := by
  rintro ⟨hi, ⟨d, -, hbelow⟩, -⟩
  have := toInt_le_lastPosition d.position
  omega

/-- A position that is not beyond what is expected leaves the next one to be expected. -/
theorem isMissing_reached (hlast : expected ≤ lastPosition) (h : c.position.toInt ≤ expected)
    (i : Int) :
    IsMissing expected (c :: cs) i ↔
      IsMissing (max expected (min (c.position.toInt + 1) lastPosition)) cs i := by
  rcases Int.lt_or_eq_of_le hlast with hlt | rfl
  · simp only [IsMissing, List.exists_mem_cons_iff, List.forall_mem_cons]
    constructor
    · rintro ⟨hi, hbelow | hbelow, hc, hnone⟩
      · omega
      · exact ⟨by omega, hbelow, hnone⟩
    · rintro ⟨hi, hbelow, hnone⟩
      exact ⟨by omega, .inr hbelow, by omega, hnone⟩
  · have hmax : max lastPosition (min (c.position.toInt + 1) lastPosition) = lastPosition := by
      omega
    rw [hmax]
    exact iff_of_false not_isMissing_last not_isMissing_last

/-- In front of a position beyond what is expected, all from there on are missing. -/
theorem isMissing_beyond (sorted : ∀ d ∈ cs, c.position.toInt ≤ d.position.toInt)
    (h : expected < c.position.toInt) (i : Int) :
    IsMissing expected (c :: cs) i ↔
      (expected ≤ i ∧ i < c.position.toInt) ∨
        IsMissing (max expected (min (c.position.toInt + 1) lastPosition)) cs i := by
  simp only [IsMissing, List.exists_mem_cons_iff, List.forall_mem_cons]
  constructor
  · rintro ⟨hi, hbelow, hc, hnone⟩
    by_cases hfront : i < c.position.toInt
    · exact .inl ⟨hi, hfront⟩
    · exact .inr ⟨by omega, hbelow.resolve_left hfront, hnone⟩
  · rintro (⟨hi, hfront⟩ | ⟨hi, ⟨d, hd, hbelow⟩, hnone⟩)
    · refine ⟨hi, .inl hfront, by omega, fun d hd => ?_⟩
      have := sorted d hd
      omega
    · have hc := toInt_le_lastPosition c.position
      have hd' := toInt_le_lastPosition d.position
      exact ⟨by omega, .inr ⟨d, hd, hbelow⟩, by omega, hnone⟩

end Missing

/-- The gaps that the scan finds are runs of missing positions, one behind the other, and no missing
position is left out. The scan takes the columns one by one, and each step is one of the three
lemmas above. -/
theorem exists_gaps (name : String) (kind : ColumnKind) {cs : List Column}
    (sorted : cs.Pairwise fun a b => a.position.toInt ≤ b.position.toInt) :
    ∀ expected, 0 ≤ expected → expected ≤ lastPosition → ∃ gaps : List (Int × Int),
      (positionFaults name kind expected cs).filter (·.fault? = some (kind, .gap)) =
        gaps.map (fun gap => .positionGap name kind gap.1 gap.2) ∧
      (∀ gap ∈ gaps, expected ≤ gap.1 ∧ gap.1 < gap.2) ∧
      gaps.Pairwise (fun gap later => gap.2 ≤ later.1) ∧
      ∀ i, (∃ gap ∈ gaps, gap.1 ≤ i ∧ i < gap.2) ↔ IsMissing expected cs i := by
  induction cs with
  | nil =>
    intro expected _ _
    exact ⟨[], rfl, by simp, .nil, by simp [IsMissing]⟩
  | cons c cs ih =>
    intro expected hzero hlast
    rw [List.pairwise_cons] at sorted
    rw [positionFaults]
    dsimp only
    by_cases hneg : c.position.toInt < 0
    · obtain ⟨gaps, hgaps, hbounds, hpairs, hmissing⟩ := ih sorted.2 expected hzero hlast
      refine ⟨gaps, ?_, hbounds, hpairs, fun i => ?_⟩
      · rw [if_pos hneg, List.filter_cons_of_neg (by simp [Diagnostic.fault?]), hgaps]
      · rw [hmissing, isMissing_negative hzero hneg]
    · obtain ⟨gaps, hgaps, hbounds, hpairs, hmissing⟩ := ih sorted.2
        (max expected (min (c.position.toInt + 1) lastPosition)) (by omega) (by omega)
      rw [if_neg hneg]
      by_cases hbeyond : c.position.toInt > expected
      · rw [if_pos hbeyond]
        refine ⟨(expected, c.position.toInt) :: gaps, ?_, ?_, ?_, fun i => ?_⟩
        · rw [List.filter_cons_of_pos (by simp [Diagnostic.fault?]), hgaps, List.map_cons]
        · refine List.forall_mem_cons.mpr ⟨⟨Int.le_refl _, hbeyond⟩, fun gap hgap => ?_⟩
          have := hbounds gap hgap
          omega
        · refine List.pairwise_cons.mpr ⟨fun gap hgap => ?_, hpairs⟩
          have := hbounds gap hgap
          have := toInt_le_lastPosition c.position
          dsimp only
          omega
        · rw [List.exists_mem_cons_iff, hmissing, isMissing_beyond sorted.1 hbeyond]
      · rw [if_neg hbeyond]
        refine ⟨gaps, hgaps, fun gap hgap => ?_, hpairs, fun i => ?_⟩
        · have := hbounds gap hgap
          omega
        · rw [hmissing, isMissing_reached hlast (by omega)]

/-! ## The keys and their columns -/

theorem sorted_keys (table : Table) (kind : ColumnKind) :
    (table.keys kind).Pairwise fun a b => a.position.toInt ≤ b.position.toInt :=
  pairwise_mergeSort_key _

/-- The keys that share a position are in catalog order. -/
theorem filter_keys (table : Table) (kind : ColumnKind) (position : Int32) :
    (table.keys kind).filter (·.position = position) =
      table.columns.filter fun c => c.kind = kind ∧ c.position = position := by
  have hstable := @filter_mergeSort_key Column (fun c => c.position.toInt)
    (table.columns.filter (·.kind = kind)) position.toInt
  simp only [Int32.toInt_inj, List.filter_filter] at hstable
  rw [keys, hstable]
  refine List.filter_congr fun c _ => ?_
  rw [Bool.decide_and, Bool.and_comm]

/-- Neighbours that share a position come in catalog order. -/
theorem sublist_of_neighbours {a b : Column} (h : (a, b) ∈ table.neighbours kind)
    (hposition : a.position = b.position) : [a, b].Sublist table.columns := by
  have hkeys : [a, b].Sublist (table.keys kind) := by
    unfold neighbours at h
    generalize table.keys kind = cs at h
    induction cs with
    | nil => simp at h
    | cons c cs ih =>
      cases cs with
      | nil => simp at h
      | cons d cs =>
        rcases List.mem_cons.mp h with heq | htail
        · obtain ⟨rfl, rfl⟩ := Prod.mk.inj heq
          exact .cons_cons _ (.cons_cons _ (List.nil_sublist _))
        · exact (ih htail).cons c
  have hties := hkeys.filter (·.position = a.position)
  rw [filter_keys, List.filter_eq_self.mpr (by simp [hposition])] at hties
  exact hties.trans List.filter_sublist

/-! ## Keys without faults -/

theorem nodup_countUp (n : Nat) : ((List.range n).map Int.ofNat).Nodup :=
  List.nodup_range.map fun _ _ h => Int.ofNat.inj h

theorem mem_countUp {n : Nat} {i : Int} : i ∈ (List.range n).map Int.ofNat ↔ 0 ≤ i ∧ i < n := by
  rw [List.mem_map]
  constructor
  · rintro ⟨k, hk, rfl⟩
    rw [List.mem_range] at hk
    simpa using hk
  · rintro ⟨hzero, hlt⟩
    exact ⟨i.toNat, List.mem_range.mpr (by omega), Int.toNat_of_nonneg hzero⟩

/-- Numbers count up from zero, in some order, if none of them comes twice, none is negative and
none is missing below another. -/
theorem perm_countUp_iff (positions : List Int) :
    positions.Perm ((List.range positions.length).map Int.ofNat) ↔
      positions.Nodup ∧ (∀ p ∈ positions, 0 ≤ p) ∧
        ∀ i, 0 ≤ i → (∃ p ∈ positions, i < p) → i ∈ positions := by
  constructor
  · intro hperm
    refine ⟨hperm.nodup_iff.mpr (nodup_countUp _), fun p hp => ?_, fun i hzero hbelow => ?_⟩
    · exact (mem_countUp.mp (hperm.mem_iff.mp hp)).1
    · obtain ⟨p, hp, hlt⟩ := hbelow
      have hp' := mem_countUp.mp (hperm.mem_iff.mp hp)
      exact hperm.mem_iff.mpr (mem_countUp.mpr ⟨hzero, by omega⟩)
  · rintro ⟨nodup, nonneg, closed⟩
    have hsub : positions ⊆ (List.range positions.length).map Int.ofNat := by
      intro p hp
      have hzero := nonneg p hp
      -- All numbers up to `p` are among the positions, so there are not more of them.
      have hbelow : ((List.range (p.toNat + 1)).map Int.ofNat) ⊆ positions := by
        intro i hi
        obtain ⟨hi, hlt⟩ := mem_countUp.mp hi
        rcases Int.lt_or_eq_of_le (show i ≤ p by omega) with hlt | rfl
        · exact closed i hi ⟨p, hp, hlt⟩
        · exact hp
      have hlength := ((nodup_countUp _).subperm hbelow).length_le
      rw [List.length_map, List.length_range] at hlength
      exact mem_countUp.mpr ⟨hzero, by omega⟩
    exact (nodup.subperm hsub).perm_of_length_le (by simp)

/-- The number of shared positions is that of the columns less that of the positions. -/
theorem length_faults_shared (hkey : kind.isKey = true) :
    (table.faults kind .shared).length +
        ((table.keys kind).map (·.position.toInt)).dedup.length = (table.keys kind).length := by
  rw [faults_shared hkey, neighbours, ← sharedPositions_eq]
  exact length_sharedPositions _ (sorted_keys table kind)

theorem faults_shared_eq_nil_iff (hkey : kind.isKey = true) :
    table.faults kind .shared = [] ↔ ((table.keys kind).map (·.position.toInt)).Nodup := by
  have hlength := @length_faults_shared table kind hkey
  rw [← List.length_eq_zero_iff, ← List.dedup_eq_self]
  constructor
  · intro h
    refine (List.dedup_sublist _).eq_of_length ?_
    rw [List.length_map]
    omega
  · intro h
    rw [h, List.length_map] at hlength
    omega

theorem faults_negative_eq_nil_iff (hkey : kind.isKey = true) :
    table.faults kind .negative = [] ↔ ∀ c ∈ table.keys kind, 0 ≤ c.position.toInt := by
  simp [faults_negative hkey]

/-- The gaps that are told are the runs of missing positions. -/
theorem exists_faults_gap (hkey : kind.isKey = true) :
    ∃ gaps : List (Int × Int),
      table.faults kind .gap =
        gaps.map (fun gap => .positionGap table.name kind gap.1 gap.2) ∧
      (∀ gap ∈ gaps, gap.1 < gap.2) ∧ gaps.Pairwise (fun gap later => gap.2 ≤ later.1) ∧
      ∀ i, (∃ gap ∈ gaps, gap.1 ≤ i ∧ i < gap.2) ↔ IsMissing 0 (table.keys kind) i := by
  obtain ⟨gaps, hgaps, hbounds, hpairs, hmissing⟩ :=
    exists_gaps table.name kind (sorted_keys table kind) 0 (Int.le_refl 0) (by decide)
  refine ⟨gaps, ?_, fun gap hgap => (hbounds gap hgap).2, hpairs, hmissing⟩
  rw [faults_of_ne_shared hkey (by decide), hgaps]

theorem faults_gap_eq_nil_iff (hkey : kind.isKey = true) :
    table.faults kind .gap = [] ↔ ∀ i, ¬ IsMissing 0 (table.keys kind) i := by
  obtain ⟨gaps, hgaps, hbounds, -, hmissing⟩ := @exists_faults_gap table kind hkey
  simp only [hgaps, List.map_eq_nil_iff, ← hmissing]
  constructor
  · rintro rfl i ⟨gap, hgap, -⟩
    exact absurd hgap List.not_mem_nil
  · intro h
    refine List.eq_nil_iff_forall_not_mem.mpr fun gap hgap => ?_
    exact h gap.1 ⟨gap, hgap, Int.le_refl _, hbounds gap hgap⟩

/-- No fault is found just if the positions count up from zero. -/
theorem faults_eq_nil_iff (hkey : kind.isKey = true) :
    (∀ fault, table.faults kind fault = []) ↔
      ((table.keys kind).map (·.position.toInt)).Perm
        ((List.range (table.keys kind).length).map Int.ofNat) := by
  have hall : (∀ fault, table.faults kind fault = []) ↔
      ((table.keys kind).map (·.position.toInt)).Nodup ∧
      (∀ c ∈ table.keys kind, 0 ≤ c.position.toInt) ∧
      ∀ i, ¬ IsMissing 0 (table.keys kind) i := by
    rw [← faults_shared_eq_nil_iff hkey, ← faults_negative_eq_nil_iff hkey,
      ← faults_gap_eq_nil_iff hkey]
    constructor
    · intro h
      exact ⟨h .shared, h .negative, h .gap⟩
    · rintro ⟨hshared, hnegative, hgap⟩ fault
      cases fault with
      | shared => exact hshared
      | negative => exact hnegative
      | gap => exact hgap
  have hclosed : (∀ i, ¬ IsMissing 0 (table.keys kind) i) ↔
      ∀ i, 0 ≤ i → (∃ p ∈ (table.keys kind).map (·.position.toInt), i < p) →
        i ∈ (table.keys kind).map (·.position.toInt) := by
    refine forall_congr' fun i => ?_
    simp only [IsMissing, List.mem_map, exists_exists_and_eq_and, not_and, not_forall, not_not,
      exists_prop]
  have hperm := perm_countUp_iff ((table.keys kind).map (·.position.toInt))
  rw [List.length_map, List.forall_mem_map] at hperm
  rw [hall, hperm, hclosed]

/-! ## Other columns -/

/-- Columns outside the keys have no part in the faults. -/
theorem faults_congr {other : Table} (hname : other.name = table.name)
    (hcolumns : other.columns.filter (·.kind.isKey) = table.columns.filter (·.kind.isKey))
    (hkey : kind.isKey = true) (fault : PositionFault) :
    other.faults kind fault = table.faults kind fault := by
  have hchosen : ∀ t : Table, t.columns.filter (·.kind = kind) =
      (t.columns.filter (·.kind.isKey)).filter (·.kind = kind) := by
    intro t
    rw [List.filter_filter]
    refine List.filter_congr fun c _ => ?_
    by_cases h : c.kind = kind
    · simp [h, hkey]
    · simp [h]
  have hkeys : other.keys kind = table.keys kind := by
    rw [keys, keys, hchosen, hchosen, hcolumns]
  rw [faults_eq hkey, faults_eq hkey, keyDiagnostics, keyDiagnostics, hkeys, hname]

/-! ## The account -/

/-- The diagnostics of a table account for all that is wrong with the positions of a key. Along its
columns sorted by position, with those that share one in catalog order, they tell of each pair of
neighbours that share a position, of each negative position, and of the runs of positions that are
missing; and there is nothing to tell just if the positions count up from zero. Columns outside the
keys have no part in this. -/
theorem faults_account (table : Table) {kind : ColumnKind} (hkey : kind.isKey = true) :
    ((table.keys kind).Pairwise (fun a b => a.position.toInt ≤ b.position.toInt) ∧
      ∀ position : Int32, (table.keys kind).filter (·.position = position) =
        table.columns.filter fun c => c.kind = kind ∧ c.position = position) ∧
    (table.faults kind .shared =
        (table.neighbours kind).filterMap (sharedPosition? table.name kind) ∧
      (table.faults kind .shared).length +
        ((table.keys kind).map (·.position.toInt)).dedup.length = (table.keys kind).length ∧
      ∀ a b, (a, b) ∈ table.neighbours kind → a.position = b.position →
        [a, b].Sublist table.columns) ∧
    table.faults kind .negative =
      ((table.keys kind).filter (·.position.toInt < 0)).map (fun c =>
        .negativePosition table.name kind c.name c.position.toInt) ∧
    (∃ gaps : List (Int × Int),
      table.faults kind .gap =
        gaps.map (fun gap => .positionGap table.name kind gap.1 gap.2) ∧
      (∀ gap ∈ gaps, gap.1 < gap.2) ∧ gaps.Pairwise (fun gap later => gap.2 ≤ later.1) ∧
      ∀ i, (∃ gap ∈ gaps, gap.1 ≤ i ∧ i < gap.2) ↔
        0 ≤ i ∧ (∃ c ∈ table.keys kind, i < c.position.toInt) ∧
          ∀ c ∈ table.keys kind, c.position.toInt ≠ i) ∧
    ((∀ fault, table.faults kind fault = []) ↔
      ((table.keys kind).map (·.position.toInt)).Perm
        ((List.range (table.keys kind).length).map Int.ofNat)) ∧
    (∀ d ∈ table.diagnostics, ∀ other fault, d.fault? = some (other, fault) →
      other.isKey = true) ∧
    ∀ other : Table, other.name = table.name →
      other.columns.filter (·.kind.isKey) = table.columns.filter (·.kind.isKey) →
      ∀ fault, other.faults kind fault = table.faults kind fault :=
  ⟨⟨sorted_keys table kind, filter_keys table kind⟩,
    ⟨faults_shared hkey, length_faults_shared hkey, fun _ _ => sublist_of_neighbours⟩,
    faults_negative hkey, exists_faults_gap hkey, faults_eq_nil_iff hkey,
    fun _ hd _ _ => isKey_of_fault? hd,
    fun _ hname hcolumns fault => faults_congr hname hcolumns hkey fault⟩

/-- A clustering column at a position. -/
def clusteringAt (name : String) (position : Int32) : Column :=
  ⟨"t", name, .clustering, position, "int", .native .int, .none⟩

/-- Positions at both ends, with gaps, a negative one and two that are shared. -/
def strained : Table where
  name := "t"
  columns :=
    [clusteringAt "last" 2147483647, clusteringAt "c" 2, clusteringAt "b" 0,
      clusteringAt "first" (-2147483648), ⟨"t", "r", .regular, 1, "int", .native .int, .none⟩,
      clusteringAt "a" 0, clusteringAt "end" 2147483647]

/-- The regular column does not fill the gap at its position. -/
theorem faults_account_strained :
    ColumnKind.clustering.isKey = true ∧
      strained.faults .clustering .shared =
        [.duplicatePosition "t" .clustering 0 "b" "a",
          .duplicatePosition "t" .clustering 2147483647 "last" "end"] ∧
      ((strained.keys .clustering).map (·.position.toInt)).dedup.length = 4 ∧
      strained.faults .clustering .gap =
        [.positionGap "t" .clustering 1 2, .positionGap "t" .clustering 3 2147483647] ∧
      ¬ ((strained.keys .clustering).map (·.position.toInt)).Perm
        ((List.range (strained.keys .clustering).length).map Int.ofNat) := by
  have hkey : ColumnKind.clustering.isKey = true := rfl
  obtain ⟨-, ⟨-, hcount, -⟩, -, -, hnone, -⟩ := faults_account strained hkey
  have hshared : strained.faults .clustering .shared =
      [.duplicatePosition "t" .clustering 0 "b" "a",
        .duplicatePosition "t" .clustering 2147483647 "last" "end"] := by cbv
  have hgap : strained.faults .clustering .gap =
      [.positionGap "t" .clustering 1 2, .positionGap "t" .clustering 3 2147483647] := by cbv
  refine ⟨hkey, hshared, ?_, hgap, ?_⟩
  · have hkeys : (strained.keys .clustering).length = 6 := by cbv
    rw [hshared, hkeys, List.length_cons, List.length_singleton] at hcount
    omega
  · rw [← hnone]
    intro h
    exact absurd (hgap.symm.trans (h .gap)) (List.cons_ne_nil _ _)

end Table

end WideColumn
