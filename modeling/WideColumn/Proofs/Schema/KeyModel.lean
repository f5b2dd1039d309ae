import Mathlib.Data.List.FinRange
import Mathlib.Data.Set.Basic
import WideColumn.Proofs.Model.Content
import WideColumn.Proofs.Schema.KeyOrder

/-!
# What a key model lists

The columns of a table are told apart by their places in the catalog, for two columns may agree in
everything else. The key columns of one kind are ordered by position, and by place where positions
are the same. The key model lists the partition key in this order, and of the clustering columns
every beginning of the order: just the sets that have, with a column, all columns before it.

Main definitions: `Table.Precedes`, `Table.IsKeyOrder`, `Table.keyOrder`.
Main result: `KeyModel.ofTable_lists`.
-/

namespace WideColumn

/-! ## Beginnings of an ordered list -/

/-- In an ordered list, the sets of elements that have, with an element, all elements before it are
the beginnings of the list. -/
theorem exists_take_iff {α : Type} {before : α → α → Prop}
    (asymm : ∀ a b, before a b → ¬ before b a) {l : List α} (ordered : l.Pairwise before)
    {s : Set α} (nonempty : s.Nonempty) (sub : ∀ a ∈ s, a ∈ l) :
    (∃ i < l.length, s = {a | a ∈ l.take (i + 1)}) ↔ ∀ a ∈ s, ∀ b ∈ l, before b a → b ∈ s := by
  constructor
  · rintro ⟨i, -, rfl⟩ a ha b hb hba
    have hsplit := ordered
    rw [← List.take_append_drop (i + 1) l, List.pairwise_append] at hsplit
    rw [← List.take_append_drop (i + 1) l, List.mem_append] at hb
    exact hb.resolve_right fun hlast => asymm a b (hsplit.2.2 a ha b hlast) hba
  · intro hclosed
    induction l generalizing s with
    | nil =>
      obtain ⟨a, ha⟩ := nonempty
      exact absurd (sub a ha) List.not_mem_nil
    | cons x l ih =>
      rw [List.pairwise_cons] at ordered
      have hx : x ∈ s := by
        obtain ⟨a, ha⟩ := nonempty
        rcases List.mem_cons.mp (sub a ha) with rfl | hmem
        · exact ha
        · exact hclosed a ha x List.mem_cons_self (ordered.1 a hmem)
      -- What is left of the set is a beginning of what is left of the list, if anything is left.
      have hrest : ∀ a, a ∈ s ↔ a = x ∨ a ∈ s ∩ {a | a ∈ l} := by
        intro a
        constructor
        · intro ha
          exact (List.mem_cons.mp (sub a ha)).imp id fun hmem => ⟨ha, hmem⟩
        · rintro (rfl | ha)
          · exact hx
          · exact ha.1
      rcases (s ∩ {a | a ∈ l}).eq_empty_or_nonempty with hempty | hnonempty
      · refine ⟨0, Nat.zero_lt_succ _, Set.ext fun a => ?_⟩
        rw [hrest, hempty]
        simp
      · obtain ⟨i, hi, hs⟩ := ih ordered.2 hnonempty (fun a ha => ha.2) fun a ha b hb hba =>
          ⟨hclosed a ha.1 b (List.mem_cons_of_mem x hb) hba, hb⟩
        refine ⟨i + 1, Nat.succ_lt_succ hi, Set.ext fun a => ?_⟩
        rw [hrest, hs]
        simp

/-! ## The order of keys -/

namespace Table

variable (table : Table)

/-- The place of a column in the catalog. -/
abbrev Place : Type := Fin table.columns.length

/-- The one column has the smaller position, or the same and the smaller place. -/
def Precedes (i j : table.Place) : Prop :=
  table.columns[i].position.toInt < table.columns[j].position.toInt ∨
    table.columns[i].position.toInt = table.columns[j].position.toInt ∧ i < j

instance (i j : table.Place) : Decidable (table.Precedes i j) :=
  inferInstanceAs (Decidable (_ ∨ _))

/-- The order of the columns of one kind. -/
structure IsKeyOrder (kind : ColumnKind) (order : List table.Place) : Prop where
  ordered : order.Pairwise table.Precedes
  mem_iff : ∀ i, i ∈ order ↔ table.columns[i].kind = kind

/-- The places of the columns of one kind, sorted as keys are. -/
def keyOrder (kind : ColumnKind) : List table.Place :=
  ((List.finRange table.columns.length).filter fun i => table.columns[i].kind = kind).mergeSort
    fun i j => table.columns[i].position.toInt ≤ table.columns[j].position.toInt

theorem Precedes.asymm {table : Table} {i j : table.Place} (h : table.Precedes i j) :
    ¬ table.Precedes j i := by
  intro h'
  rcases h with h | ⟨h, hij⟩ <;> rcases h' with h' | ⟨h', hji⟩
  · exact Int.lt_asymm h h'
  · exact Int.lt_irrefl _ (h' ▸ h)
  · exact Int.lt_irrefl _ (h ▸ h')
  · exact Fin.lt_asymm hij hji

/-- The keys are sorted by position, and the sorting keeps the order of the places otherwise. -/
theorem isKeyOrder_keyOrder (kind : ColumnKind) :
    table.IsKeyOrder kind (table.keyOrder kind) where
  ordered := by
    have hsorted : (table.keyOrder kind).Pairwise fun i j =>
        table.columns[i].position.toInt ≤ table.columns[j].position.toInt :=
      pairwise_mergeSort_key _
    have hties : ∀ k : Int, (table.keyOrder kind).Pairwise fun i j =>
        table.columns[i].position.toInt = k → table.columns[j].position.toInt = k → i < j := by
      intro k
      have hplaces := ((List.pairwise_lt_finRange table.columns.length).filter
        fun i => table.columns[i].kind = kind).filter
        fun i => table.columns[i].position.toInt = k
      rw [← filter_mergeSort_key, List.pairwise_filter] at hplaces
      simp only [decide_eq_true_eq] at hplaces
      exact hplaces
    rw [List.pairwise_iff_forall_sublist] at hsorted ⊢
    intro i j hij
    have hle := hsorted hij
    have hlt := List.pairwise_iff_forall_sublist.mp (hties table.columns[j].position.toInt) hij
    rcases Int.lt_or_eq_of_le hle with hpos | hpos
    · exact .inl hpos
    · exact .inr ⟨hpos, hlt hpos rfl⟩
  mem_iff i := by simp [keyOrder]

theorem keys_eq_map (kind : ColumnKind) :
    table.keys kind = (table.keyOrder kind).map fun i => table.columns[i] := by
  have hcolumns : (List.finRange table.columns.length).map (fun i => table.columns[i]) =
      table.columns := List.map_getElem_finRange table.columns
  have hkind := List.filter_map (p := fun c : Column => decide (c.kind = kind))
    (f := fun i : table.Place => table.columns[i]) (l := List.finRange table.columns.length)
  rw [hcolumns] at hkind
  rw [keys, hkind, keyOrder]
  refine (List.map_mergeSort ?_).symm
  intro i _ j _
  rfl

theorem length_keyOrder (kind : ColumnKind) :
    (table.keyOrder kind).length = table.columns.countP (fun c => c.kind = kind) := by
  have hlength := congrArg List.length (table.keys_eq_map kind)
  rw [List.length_map] at hlength
  rw [← hlength, keys, List.length_mergeSort, List.countP_eq_length_filter]

/-- The field of the column at a place. -/
def keyField (i : table.Place) : KeyField := .ofColumn table.columns[i]

theorem map_ofColumn_keys (kind : ColumnKind) :
    (table.keys kind).map KeyField.ofColumn = (table.keyOrder kind).map table.keyField := by
  rw [keys_eq_map, List.map_map]
  rfl

variable {table}

theorem IsKeyOrder.eq_nil_iff {kind : ColumnKind} {order : List table.Place}
    (h : table.IsKeyOrder kind order) : order = [] ↔ ∀ c ∈ table.columns, c.kind ≠ kind := by
  rw [List.eq_nil_iff_forall_not_mem]
  constructor
  · intro hnone c hc hkind
    obtain ⟨i, hi, rfl⟩ := List.getElem_of_mem hc
    exact hnone ⟨i, hi⟩ ((h.mem_iff ⟨i, hi⟩).mpr hkind)
  · intro hnone i hi
    exact hnone _ (List.getElem_mem i.isLt) ((h.mem_iff i).mp hi)

end Table

/-! ## The key model -/

namespace KeyModel

theorem length_prefixesOf {α : Type} (xs : List α) : (prefixesOf xs).length = xs.length := by
  simp [prefixesOf]

theorem getElem?_prefixesOf {α : Type} {xs : List α} {i : Nat} (h : i < xs.length) :
    (prefixesOf xs)[i]? = some (xs.take (i + 1)) := by
  simp [prefixesOf, h]

theorem eq_take_of_getElem?_prefixesOf {α : Type} {xs p : List α} {i : Nat}
    (h : (prefixesOf xs)[i]? = some p) : i < xs.length ∧ p = xs.take (i + 1) := by
  obtain ⟨hi, -⟩ := List.getElem?_eq_some_iff.mp h
  rw [length_prefixesOf] at hi
  rw [getElem?_prefixesOf hi] at h
  exact ⟨hi, (Option.some.inj h).symm⟩

theorem getLast?_prefixesOf {α : Type} (xs : List α) : (prefixesOf xs).getLast?.getD [] = xs := by
  cases xs with
  | nil => rfl
  | cons x xs =>
    rw [List.getLast?_eq_getElem?, length_prefixesOf, getElem?_prefixesOf (by simp)]
    simp

/-- A key model lists these columns: the partition key, and every beginning of the clustering
columns. -/
structure Lists {table : Table} (keys : KeyModel) (partition clustering : List table.Place) :
    Prop where
  partitionKeys : keys.partitionKeys = partition.map table.keyField
  length_prefixes : keys.clusteringPrefixes.length = clustering.length
  prefixes : ∀ i < clustering.length, keys.clusteringPrefixes[i]? =
    some ((clustering.take (i + 1)).map table.keyField)
  length_prefix : ∀ i p, keys.clusteringPrefixes[i]? = some p → p.length = i + 1
  /-- A beginning is the one before it with one field more. -/
  extension : ∀ i p q, keys.clusteringPrefixes[i]? = some p →
    keys.clusteringPrefixes[i + 1]? = some q → ∃ field, q = p ++ [field]
  clusteringFields : keys.clusteringFields = clustering.map table.keyField
  isClustered : keys.isClustered = false ↔ clustering = []

theorem clusteringPrefixes_ofTable (table : Table) :
    (ofTable table).clusteringPrefixes =
      prefixesOf ((table.keyOrder .clustering).map table.keyField) :=
  congrArg prefixesOf (table.map_ofColumn_keys .clustering)

theorem lists_ofTable (table : Table) :
    (ofTable table).Lists (table.keyOrder .partitionKey) (table.keyOrder .clustering) where
  partitionKeys := table.map_ofColumn_keys .partitionKey
  length_prefixes := by
    rw [clusteringPrefixes_ofTable, length_prefixesOf, List.length_map]
  prefixes i hi := by
    rw [clusteringPrefixes_ofTable, getElem?_prefixesOf (by rwa [List.length_map]), List.map_take]
  length_prefix i p hp := by
    rw [clusteringPrefixes_ofTable] at hp
    obtain ⟨hi, rfl⟩ := eq_take_of_getElem?_prefixesOf hp
    exact List.length_take_of_le hi
  extension i p q hp hq := by
    rw [clusteringPrefixes_ofTable] at hp hq
    obtain ⟨-, rfl⟩ := eq_take_of_getElem?_prefixesOf hp
    obtain ⟨hlast, rfl⟩ := eq_take_of_getElem?_prefixesOf hq
    exact ⟨_, (List.take_append_getElem hlast).symm⟩
  clusteringFields := by
    rw [KeyModel.clusteringFields, clusteringPrefixes_ofTable, getLast?_prefixesOf]
  isClustered := by
    rw [KeyModel.isClustered, clusteringPrefixes_ofTable, Bool.not_eq_false', List.isEmpty_iff,
      ← List.length_eq_zero_iff, length_prefixesOf, List.length_map, List.length_eq_zero_iff]

end KeyModel

namespace Model

open Declaration

/-- The line of a column in the interface of the rows. -/
def interfaceLine (column : Column) : String := fieldText "  " (columnField column) ++ "\n"

/-- A model has the interface of the rows behind its imports. -/
theorem exists_content (table : Table) (keys : KeyModel) :
    ∃ back : String, (render table keys).content =
      importDriver.text ++ importClient.text ++ "\nexport interface " ++ Name.entity table.name
        ++ r" {" ++ "\n" ++ String.join (table.columns.map interfaceLine) ++ r"}" ++ "\n"
        ++ back := by
  have hlines : fieldLines (table.columns.map columnField) =
      String.join (table.columns.map interfaceLine) := by
    rw [fieldLines, List.map_map]
    rfl
  have htext := toList_content table keys
  rw [toList_entity, hlines] at htext
  refine ⟨String.ofList ('\n' :: ((partitionKeys (keys.partitionKeys.map keyField)).text.toList ++
    '\n' :: (clusteringPart (keys.clusteringPrefixes.map (·.map keyField)) ++
      ((mapper (Name.entity table.name) table.name (convertedColumns table.columns)).text.toList ++
        closing (Name.entity table.name) keys.isClustered)))),
    String.toList_inj.mp (htext.trans ?_)⟩
  simp [-String.toList_join]

end Model

namespace KeyModel

/-- A key model lists the key columns in their order, and of the clustering columns just the choices
that leave none out; each field is the line of its column in the interface of the rows. -/
theorem ofTable_lists (table : Table) :
    ∃ partition clustering : List table.Place,
      table.IsKeyOrder .partitionKey partition ∧ table.IsKeyOrder .clustering clustering ∧
      (ofTable table).Lists partition clustering ∧
      (ofTable table).clusteringPrefixes.length =
        table.columns.countP (fun c => c.kind = .clustering) ∧
      ((ofTable table).isClustered = false ↔ ∀ c ∈ table.columns, c.kind ≠ .clustering) ∧
      (∀ chosen : Set table.Place, chosen.Nonempty →
        (∀ i ∈ chosen, table.columns[i].kind = .clustering) →
        ((∃ i < clustering.length, chosen = {j | j ∈ clustering.take (i + 1)}) ↔
          ∀ j ∈ chosen, ∀ i : table.Place, table.columns[i].kind = .clustering →
            table.Precedes i j → i ∈ chosen)) ∧
      (∀ i ∈ partition ++ clustering, Model.interfaceLine table.columns[i] =
        "  " ++ (table.keyField i).name ++ ": " ++ (table.keyField i).target.text ++ ";\n") ∧
      ∃ back : String, (Model.ofTable table).content =
        Declaration.importDriver.text ++ Declaration.importClient.text ++ "\nexport interface "
          ++ Name.entity table.name ++ r" {" ++ "\n"
          ++ String.join (table.columns.map Model.interfaceLine) ++ r"}" ++ "\n" ++ back := by
  have hclustering := table.isKeyOrder_keyOrder .clustering
  refine ⟨table.keyOrder .partitionKey, table.keyOrder .clustering,
    table.isKeyOrder_keyOrder .partitionKey, hclustering, lists_ofTable table, ?_,
    (lists_ofTable table).isClustered.trans hclustering.eq_nil_iff, ?_, ?_,
    Model.exists_content table (ofTable table)⟩
  · rw [(lists_ofTable table).length_prefixes, table.length_keyOrder]
  · intro chosen hnonempty hkind
    rw [exists_take_iff (fun _ _ => Table.Precedes.asymm) hclustering.ordered hnonempty
      fun i hi => (hclustering.mem_iff i).mpr (hkind i hi)]
    simp only [hclustering.mem_iff]
  · intro i _
    simp [Model.interfaceLine, Declaration.fieldText, Table.keyField, KeyField.ofColumn,
      Model.columnField, String.append_assoc]

/-- The visits of a site, with positions that repeat and are not in the order of the catalog. -/
def visits : Table where
  name := "visits"
  columns :=
    [⟨"visits", "hour_of_day", .clustering, 1, "int", .native .int, .none⟩,
      ⟨"visits", "site", .partitionKey, 0, "uuid", .native .uuid, .none⟩,
      ⟨"visits", "visit_year", .clustering, -1, "int", .native .int, .none⟩,
      ⟨"visits", "owner", .static, -1, "text", .native .text, .none⟩,
      ⟨"visits", "visit_day", .clustering, -1, "int", .native .int, .none⟩]

/-- The place of the year of a visit. -/
def visitYear : visits.Place := ⟨2, by decide⟩

/-- The place of the day of a visit. -/
def visitDay : visits.Place := ⟨4, by decide⟩

/-- The year and the day may be named, but not the day alone: the year is before it in the
catalog. -/
theorem ofTable_lists_visits :
    ∃ clustering : List visits.Place,
      (ofTable visits).clusteringFields = clustering.map visits.keyField ∧
      (∃ i < clustering.length, {visitYear, visitDay} = {j | j ∈ clustering.take (i + 1)}) ∧
      ¬ ∃ i < clustering.length, {visitDay} = {j | j ∈ clustering.take (i + 1)} := by
  obtain ⟨_, clustering, -, -, hlists, -, -, hchoices, -⟩ := ofTable_lists visits
  have hkinds : ∀ i ∈ ({visitYear, visitDay} : Set visits.Place),
      visits.columns[i].kind = .clustering := by
    rintro i (rfl | rfl) <;> rfl
  have hbefore : ∀ i, visits.columns[i].kind = .clustering →
      visits.Precedes i visitYear ∨ visits.Precedes i visitDay →
        i = visitYear ∨ i = visitDay := by decide
  refine ⟨clustering, hlists.clusteringFields,
    (hchoices {visitYear, visitDay} ⟨visitYear, .inl rfl⟩ hkinds).mpr ?_, fun h => ?_⟩
  · rintro j (rfl | rfl) i hi hij
    · exact hbefore i hi (.inl hij)
    · exact hbefore i hi (.inr hij)
  · have hday : ∀ i ∈ ({visitDay} : Set visits.Place), visits.columns[i].kind = .clustering := by
      rintro i rfl
      rfl
    have hyear : visitYear = visitDay := (hchoices {visitDay} ⟨visitDay, rfl⟩ hday).mp h
      visitDay rfl visitYear rfl (by decide)
    exact absurd hyear (by decide)

end KeyModel

end WideColumn
