import Mathlib.Data.List.Basic
import WideColumn.Proofs.Schema.Grouping
import WideColumn.Proofs.Schema.KeyOrder

/-!
# Keys do not depend on the order of the catalog

The rows of a catalog can come in any order, with the tables between one another. If the order is
changed, the tables stay the same up to their own order, and so do the keys of each table, as long
as rows that take the same place in the same key stay in their order. Where no two rows take the
same place, every order gives the same keys.

Main definitions: `KeyPlace`, `Row.keyPlace?`, `KeepsTies`.
Main result: `Tables.ofRows_reordered`.
-/

namespace WideColumn

/-! ## Places in keys -/

/-- A place in a key of a table. -/
structure KeyPlace where
  table : String
  kind : ColumnKind
  position : Int32
  deriving DecidableEq

/-- The place that a row takes in a key of its table. A row outside the keys takes none. -/
def Row.keyPlace? (row : Row) : Option KeyPlace :=
  ((ColumnKind.ofName? row.kind).filter ColumnKind.isKey).map fun kind =>
    ⟨row.tableName, kind, row.position⟩

/-- Rows that take the same place in the same key come in the same order in both lists. -/
def KeepsTies (rows rows' : List Row) : Prop :=
  ∀ place : KeyPlace, rows.filter (·.keyPlace? = some place) =
    rows'.filter (·.keyPlace? = some place)

/-- Only places that some row takes matter. -/
theorem keepsTies_iff {rows rows' : List Row} :
    KeepsTies rows rows' ↔ ∀ place ∈ (rows ++ rows').filterMap Row.keyPlace?,
      rows.filter (·.keyPlace? = some place) = rows'.filter (·.keyPlace? = some place) := by
  constructor
  · intro ties place _
    exact ties place
  · intro h place
    by_cases hplace : place ∈ (rows ++ rows').filterMap Row.keyPlace?
    · exact h place hplace
    · rw [List.filterMap_append, List.mem_append, not_or] at hplace
      have hnone : ∀ {l : List Row}, place ∉ l.filterMap Row.keyPlace? →
          l.filter (·.keyPlace? = some place) = [] := by
        intro l hl
        rw [List.filter_eq_nil_iff]
        intro row hrow htaken
        exact hl (List.mem_filterMap.mpr ⟨row, hrow, of_decide_eq_true htaken⟩)
      rw [hnone hplace.1, hnone hplace.2]

instance (rows rows' : List Row) : Decidable (KeepsTies rows rows') :=
  decidable_of_iff _ keepsTies_iff.symm

/-- If no two rows take the same place, there are no ties to keep. -/
theorem KeepsTies.of_nodup {rows rows' : List Row} (perm : rows.Perm rows')
    (nodup : (rows.filterMap Row.keyPlace?).Nodup) : KeepsTies rows rows' := by
  intro place
  have hperm := perm.filter (·.keyPlace? = some place)
  have hcount : (rows.filter (·.keyPlace? = some place)).length ≤ 1 := by
    have hone := List.nodup_iff_count.mp nodup place
    rw [List.count_filterMap, List.countP_eq_length_filter] at hone
    simpa only [beq_eq_decide] using hone
  revert hperm hcount
  cases rows.filter (·.keyPlace? = some place) with
  | nil => exact fun hperm _ => hperm.nil_eq
  | cons row rest =>
    intro hperm hcount
    obtain rfl : rest = [] := List.eq_nil_of_length_eq_zero (by simpa using hcount)
    exact List.singleton_perm.mp hperm

/-! ## Columns of a place -/

/-- The columns of a table that share a position in a key are those of the rows of that place. -/
theorem filter_columns_of_rows (rows : List Row) (place : KeyPlace)
    (hkey : place.kind.isKey = true) :
    ((rows.filterMap Column.ofRow?).filter (·.tableName == place.table)).filter
        (fun c => c.kind = place.kind ∧ c.position = place.position) =
      (rows.filter (·.keyPlace? = some place)).filterMap Column.ofRow? := by
  rw [List.filter_filter, List.filter_filterMap, List.filterMap_filter]
  refine List.filterMap_congr fun row _ => ?_
  unfold Column.ofRow? Column.ofRow Row.keyPlace?
  obtain ⟨table, kind, position⟩ := place
  cases ColumnKind.ofName? row.kind with
  | none => simp [Except.toOption]
  | some kind' =>
    by_cases h : kind' = kind
    · subst h
      simp [Except.toOption, Option.filter, show kind'.isKey = true from hkey, and_comm]
    · cases hkind' : kind'.isKey <;> simp [Except.toOption, Option.filter, h, hkind']

namespace Tables

variable {rows rows' : List Row}

/-- The tables of both lists have the same keys where they have the same name. -/
theorem sameKeys_of_keepsTies (ties : KeepsTies rows rows') {t u : Table}
    (ht : t ∈ ofColumns (rows.filterMap Column.ofRow?))
    (hu : u ∈ ofColumns (rows'.filterMap Column.ofRow?)) (name : t.name = u.name) :
    t.SameKeys u := by
  have hkeys : ∀ kind : ColumnKind, kind.isKey = true → t.keys kind = u.keys kind := by
    intro kind hkind
    refine Table.keys_congr fun position => ?_
    have hplace := ties ⟨t.name, kind, position⟩
    rw [columns_of_mem_ofColumns ht, columns_of_mem_ofColumns hu, ← name,
      filter_columns_of_rows rows ⟨t.name, kind, position⟩ hkind,
      filter_columns_of_rows rows' ⟨t.name, kind, position⟩ hkind, hplace]
  exact ⟨name, hkeys .partitionKey rfl, hkeys .clustering rfl⟩

/-- The tables of rows in another order have the same names. -/
theorem perm_names (perm : rows.Perm rows') :
    ((ofColumns (rows.filterMap Column.ofRow?)).map (·.name)).Perm
      ((ofColumns (rows'.filterMap Column.ofRow?)).map (·.name)) := by
  have hmem : ∀ (columns : List Column) (name : String),
      name ∈ (ofColumns columns).map (·.name) ↔ ∃ c ∈ columns, c.tableName = name := by
    intro columns name
    have hhas : has (ofColumns columns) name = true ↔
        name ∈ (ofColumns columns).map (·.name) := by
      simp [has]
    rw [← hhas, has_ofColumns]
    simp
  rw [List.perm_ext_iff_of_nodup (nodup_names _) (nodup_names _)]
  intro name
  rw [hmem, hmem]
  simp only [(perm.filterMap Column.ofRow?).mem_iff]

/-- Rows in another order give the same tables up to the order of these. Tables of one name have the
same key model, their statements agree in the primary key and the directions, and their diagnostics
about positions are the same, unless rows that take the same place in a key have been exchanged. -/
theorem ofRows_reordered (known : ∀ row ∈ rows, row.hasKnownKind = true)
    (perm : rows.Perm rows')
    (ties : KeepsTies rows rows' ∨ (rows.filterMap Row.keyPlace?).Nodup) :
    ∃ tables tables', ofRows rows [] = .ok tables ∧ ofRows rows' [] = .ok tables' ∧
      (tables.map (·.name)).Nodup ∧ (tables.map (·.name)).Perm (tables'.map (·.name)) ∧
      ∀ t ∈ tables, ∀ u ∈ tables', t.name = u.name →
        KeyModel.ofTable t = KeyModel.ofTable u ∧
        (∀ keyspace, ∃ primaryKey directions : String,
          Cql.createTable keyspace t = Cql.openingText keyspace t
            ++ "  PRIMARY KEY (" ++ primaryKey ++ ")\n" ++ ")" ++ directions ++ ";\n" ∧
          Cql.createTable keyspace u = Cql.openingText keyspace u
            ++ "  PRIMARY KEY (" ++ primaryKey ++ ")\n" ++ ")" ++ directions ++ ";\n") ∧
        t.diagnostics.filter Diagnostic.isAboutPosition =
          u.diagnostics.filter Diagnostic.isAboutPosition := by
  have hties : KeepsTies rows rows' := ties.elim id (KeepsTies.of_nodup perm)
  have hread : ∀ {l : List Row}, (∀ row ∈ l, row.hasKnownKind = true) →
      ofRows l [] = .ok (ofColumns (l.filterMap Column.ofRow?)) := by
    intro l hl
    rw [ofRows_eq, List.find?_eq_none.mpr fun row hrow => by simp [hl row hrow]]
    rfl
  refine ⟨_, _, hread known, hread fun row hrow => known row (perm.mem_iff.mpr hrow),
    nodup_names _, perm_names perm, fun t ht u hu name => ?_⟩
  have hsame := sameKeys_of_keepsTies hties ht hu name
  refine ⟨hsame.keyModel, fun keyspace => ?_, hsame.positionDiagnostics⟩
  refine ⟨_, _, Cql.createTable_eq keyspace t, ?_⟩
  rw [hsame.primaryKeyParts, hsame.orderClause]
  exact Cql.createTable_eq keyspace u

/-- Rows of two tables between one another. Two clustering columns share a position. -/
def mixedRows : List Row :=
  [⟨"events", "day", none, "partition_key", 1, "date"⟩,
    ⟨"rooms", "id", none, "partition_key", 0, "uuid"⟩,
    ⟨"events", "second", some "desc", "clustering", 0, "int"⟩,
    ⟨"events", "tenant", none, "partition_key", 0, "text"⟩,
    ⟨"events", "first", none, "clustering", 0, "int"⟩,
    ⟨"events", "body", none, "regular", -1, "text"⟩]

/-- The same rows in another order, but for the two that share a position. -/
def movedRows : List Row :=
  [⟨"rooms", "id", none, "partition_key", 0, "uuid"⟩,
    ⟨"events", "body", none, "regular", -1, "text"⟩,
    ⟨"events", "second", some "desc", "clustering", 0, "int"⟩,
    ⟨"events", "first", none, "clustering", 0, "int"⟩,
    ⟨"events", "tenant", none, "partition_key", 0, "text"⟩,
    ⟨"events", "day", none, "partition_key", 1, "date"⟩]

/-- The tables change places and their keys do not. -/
theorem ofRows_reordered_moved :
    (∀ row ∈ mixedRows, row.hasKnownKind = true) ∧ mixedRows.Perm movedRows ∧
      KeepsTies mixedRows movedRows ∧
      ∃ tables tables', ofRows mixedRows [] = .ok tables ∧ ofRows movedRows [] = .ok tables' ∧
        tables.map (·.name) = ["events", "rooms"] ∧ tables'.map (·.name) = ["rooms", "events"] ∧
        ∀ t ∈ tables, ∀ u ∈ tables', t.name = u.name →
          KeyModel.ofTable t = KeyModel.ofTable u := by
  have known : ∀ row ∈ mixedRows, row.hasKnownKind = true := by decide
  have perm : mixedRows.Perm movedRows := by decide
  have ties : KeepsTies mixedRows movedRows := by decide
  obtain ⟨tables, tables', hmixed, hmoved, -, -, hkeys⟩ :=
    ofRows_reordered known perm (.inl ties)
  refine ⟨known, perm, ties, tables, tables', hmixed, hmoved, ?_, ?_,
    fun t ht u hu name => (hkeys t ht u hu name).1⟩
  · obtain rfl := Except.ok.inj hmixed
    rfl
  · obtain rfl := Except.ok.inj hmoved
    rfl

end Tables

end WideColumn
