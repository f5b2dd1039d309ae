import WideColumn.Cql.CreateTable
import WideColumn.KeyModel
import WideColumn.Schema.Diagnostic

/-!
# What the order of key columns depends on

The key columns of a table are sorted by position, and columns that share a position keep the order
of the catalog. So the sorted keys do not depend on the whole order of the catalog, but only on the
order inside each group of columns that share a position; and the key model, the key clauses of the
`CREATE TABLE` statement and the diagnostics about positions depend on the sorted keys alone.

Main definitions: `Table.SameKeys`, `Diagnostic.isAboutPosition`, `Cql.openingText`.

* `eq_of_sorted_of_ties`: a sorted list is determined by its ties.
* `Table.keys_congr`: the keys of a table are determined by the columns that share a position.
-/

namespace WideColumn

/-! ## Sorted lists -/

section Sorted

variable {α : Type} {key : α → Int}

/-- Two sorted lists are the same if they have the same elements of each key, in the same order. -/
theorem eq_of_sorted_of_ties {l m : List α} (hl : l.Pairwise fun a b => key a ≤ key b)
    (hm : m.Pairwise fun a b => key a ≤ key b)
    (ties : ∀ k, l.filter (key · = k) = m.filter (key · = k)) : l = m := by
  induction l generalizing m with
  | nil =>
    cases m with
    | nil => rfl
    | cons b m => simpa using ties (key b)
  | cons a l ih =>
    cases m with
    | nil => simpa using ties (key a)
    | cons b m =>
      rw [List.pairwise_cons] at hl hm
      -- Each head is in the other list, which begins with its least key.
      have hba : key b ≤ key a := by
        have ha : a ∈ (b :: m).filter (key · = key a) := by simp [← ties]
        rcases List.mem_cons.mp (List.mem_filter.mp ha).1 with rfl | ha
        · exact Int.le_refl _
        · exact hm.1 a ha
      have hab : key a ≤ key b := by
        have hb : b ∈ (a :: l).filter (key · = key b) := by simp [ties]
        rcases List.mem_cons.mp (List.mem_filter.mp hb).1 with rfl | hb
        · exact Int.le_refl _
        · exact hl.1 b hb
      have hkey : key b = key a := Int.le_antisymm hba hab
      have hheads := ties (key a)
      rw [List.filter_cons_of_pos (by simp), List.filter_cons_of_pos (by simp [hkey])] at hheads
      obtain rfl : a = b := (List.cons.inj hheads).1
      have htails : l = m := by
        refine ih hl.2 hm.2 fun k => ?_
        by_cases hk : key a = k
        · subst hk
          exact (List.cons.inj hheads).2
        · have hties := ties k
          rwa [List.filter_cons_of_neg (by simp [hk]), List.filter_cons_of_neg (by simp [hk])]
            at hties
      rw [htails]

theorem pairwise_mergeSort_key (l : List α) :
    (l.mergeSort fun a b => key a ≤ key b).Pairwise fun a b => key a ≤ key b := by
  have hsorted := @List.pairwise_mergeSort α (fun a b => decide (key a ≤ key b))
    (fun a b c hab hbc => by
      simp only [decide_eq_true_eq] at *
      exact Int.le_trans hab hbc)
    (fun a b => by simpa using Int.le_total (key a) (key b)) l
  exact hsorted.imp of_decide_eq_true

/-- Sorting is stable: the elements of one key keep their order. -/
theorem filter_mergeSort_key (l : List α) (k : Int) :
    (l.mergeSort fun a b => key a ≤ key b).filter (key · = k) = l.filter (key · = k) := by
  have hties : (l.filter (key · = k)).Pairwise fun a b => decide (key a ≤ key b) = true := by
    refine List.pairwise_of_forall_mem_list fun a ha b hb => ?_
    have hak : key a = k := of_decide_eq_true (List.mem_filter.mp ha).2
    have hbk : key b = k := of_decide_eq_true (List.mem_filter.mp hb).2
    simp [hak, hbk]
  have hsub : (l.filter (key · = k)).Sublist (l.mergeSort fun a b => key a ≤ key b) := by
    refine List.sublist_mergeSort ?_ ?_ hties List.filter_sublist
    · intro a b c hab hbc
      simp only [decide_eq_true_eq] at *
      exact Int.le_trans hab hbc
    · intro a b
      simpa using Int.le_total (key a) (key b)
  have hfiltered := hsub.filter (key · = k)
  rw [List.filter_filter, List.filter_congr (q := (key · = k)) (by simp)] at hfiltered
  exact (hfiltered.eq_of_length ((List.mergeSort_perm _ _).symm.filter _).length_eq).symm

end Sorted

/-! ## The keys of a table -/

namespace Table

/-- The keys of one kind are determined by the columns of that kind that share a position. -/
theorem keys_congr {t u : Table} {kind : ColumnKind}
    (h : ∀ position : Int32, t.columns.filter (fun c => c.kind = kind ∧ c.position = position) =
      u.columns.filter (fun c => c.kind = kind ∧ c.position = position)) :
    t.keys kind = u.keys kind := by
  refine eq_of_sorted_of_ties (pairwise_mergeSort_key _) (pairwise_mergeSort_key _) fun k => ?_
  rw [keys, keys, filter_mergeSort_key, filter_mergeSort_key, List.filter_filter,
    List.filter_filter]
  by_cases hk : ∃ position : Int32, position.toInt = k
  · obtain ⟨position, rfl⟩ := hk
    have hsame : (fun c : Column => decide (c.position.toInt = position.toInt) &&
        decide (c.kind = kind)) = fun c => decide (c.kind = kind ∧ c.position = position) := by
      funext c
      simp only [Int32.toInt_inj, Bool.and_comm, Bool.decide_and]
    rw [hsame]
    exact h position
  · -- No column has a position that does not fit.
    have hnone : ∀ columns : List Column, columns.filter (fun c =>
        decide (c.position.toInt = k) && decide (c.kind = kind)) = [] := by
      intro columns
      rw [List.filter_eq_nil_iff]
      intro c _ hc
      simp only [Bool.and_eq_true, decide_eq_true_eq] at hc
      exact hk ⟨c.position, hc.1⟩
    rw [hnone, hnone]

/-- Two tables have one name and the same key columns in the same order. -/
structure SameKeys (t u : Table) : Prop where
  name : t.name = u.name
  partition : t.partitionKeys = u.partitionKeys
  clustering : t.clusteringKeys = u.clusteringKeys

end Table

/-! ## What is made of the keys -/

/-- The diagnostic is about the position of a key column. -/
def Diagnostic.isAboutPosition : Diagnostic → Bool
  | unknownType _ _ _ => false
  | duplicatePosition _ _ _ _ _ => true
  | positionGap _ _ _ _ => true
  | negativePosition _ _ _ _ => true

/-- The statement of a table up to its last column. -/
def Cql.openingText (keyspace : String) (table : Table) : String :=
  "CREATE TABLE " ++ quoteIdentifier keyspace ++ "." ++ quoteIdentifier table.name ++ " (\n"
    ++ String.join (table.columns.map columnLine)

theorem Cql.createTable_eq (keyspace : String) (table : Table) :
    createTable keyspace table = openingText keyspace table
      ++ "  PRIMARY KEY (" ++ ", ".intercalate (primaryKeyParts table) ++ ")\n"
      ++ ")" ++ orderClause table ++ ";\n" := rfl

namespace Table

theorem sharedPositions_isAboutPosition (table : String) (kind : ColumnKind) (cs : List Column) :
    ∀ d ∈ sharedPositions table kind cs, d.isAboutPosition = true := by
  induction cs with
  | nil => simp [sharedPositions]
  | cons a cs ih =>
    cases cs with
    | nil => simp [sharedPositions]
    | cons b cs =>
      rw [sharedPositions]
      split
      · rw [List.forall_mem_cons]
        exact ⟨rfl, ih⟩
      · exact ih

theorem positionFaults_isAboutPosition (table : String) (kind : ColumnKind) (cs : List Column) :
    ∀ (expected : Int), ∀ d ∈ positionFaults table kind expected cs, d.isAboutPosition = true := by
  induction cs with
  | nil => simp [positionFaults]
  | cons c cs ih =>
    intro expected
    rw [positionFaults]
    dsimp only
    split
    · rw [List.forall_mem_cons]
      exact ⟨rfl, ih _⟩
    · split
      · rw [List.forall_mem_cons]
        exact ⟨rfl, ih _⟩
      · exact ih _

/-- The diagnostics about positions are those of the two kinds of keys. -/
theorem filter_isAboutPosition (table : Table) :
    table.diagnostics.filter Diagnostic.isAboutPosition =
      table.keyDiagnostics .partitionKey ++ table.keyDiagnostics .clustering := by
  have htypes : table.typeDiagnostics.filter Diagnostic.isAboutPosition = [] := by
    rw [List.filter_eq_nil_iff, typeDiagnostics]
    intro d hd
    obtain ⟨c, -, rfl⟩ := List.mem_map.mp hd
    exact Bool.false_ne_true
  have hkeys : ∀ kind, (table.keyDiagnostics kind).filter Diagnostic.isAboutPosition =
      table.keyDiagnostics kind := by
    intro kind
    rw [List.filter_eq_self, keyDiagnostics, List.forall_mem_append]
    exact ⟨sharedPositions_isAboutPosition _ _ _, positionFaults_isAboutPosition _ _ _ _⟩
  rw [diagnostics, List.filter_append, List.filter_append, htypes, hkeys, hkeys, List.nil_append]

namespace SameKeys

variable {t u : Table}

theorem keyModel (h : SameKeys t u) : KeyModel.ofTable t = KeyModel.ofTable u := by
  rw [KeyModel.ofTable, KeyModel.ofTable, h.partition, h.clustering]

theorem primaryKeyParts (h : SameKeys t u) : Cql.primaryKeyParts t = Cql.primaryKeyParts u := by
  rw [Cql.primaryKeyParts, Cql.primaryKeyParts, h.partition, h.clustering]

theorem orderClause (h : SameKeys t u) : Cql.orderClause t = Cql.orderClause u := by
  rw [Cql.orderClause, Cql.orderClause, h.clustering]

theorem positionDiagnostics (h : SameKeys t u) :
    t.diagnostics.filter Diagnostic.isAboutPosition =
      u.diagnostics.filter Diagnostic.isAboutPosition := by
  have hpartition : t.keys .partitionKey = u.keys .partitionKey := h.partition
  have hclustering : t.keys .clustering = u.keys .clustering := h.clustering
  rw [filter_isAboutPosition, filter_isAboutPosition]
  unfold keyDiagnostics
  rw [h.name, hpartition, hclustering]

end SameKeys

end Table

end WideColumn
