import WideColumn.Model.Basic
import WideColumn.Proofs.ColumnType.Unknown
import WideColumn.Proofs.Schema.FirstSeen
import WideColumn.Proofs.Schema.KeyOrder

/-!
# Unknown types are announced

A table has a diagnostic for each column whose type is unknown somewhere, in front of all others and
in catalog order. The field of a column is declared `unknown` in some part only if its type is
unknown there, so no such field goes unannounced. What is announced without being seen in a field is
an unknown key of a map and an unknown element of a vector.

Main result: `Table.unknown_announced`.
-/

namespace WideColumn

/-! ## Rows and their diagnostics -/

/-- The columns are what the rows are read as, one for one. -/
def Row.AreRead (rows : List Row) (columns : List Column) : Prop :=
  List.Forall₂ (fun row column => Column.ofRow row = .ok column) rows columns

theorem Row.describes_of_ofRow {row : Row} {column : Column} (h : Column.ofRow row = .ok column) :
    row.Describes column :=
  describes_of_ofRow? (by rw [Column.ofRow?, h]; rfl)

theorem Row.AreRead.forall₂_describes {rows : List Row} {columns : List Column}
    (h : Row.AreRead rows columns) : List.Forall₂ Row.Describes rows columns :=
  List.Forall₂.imp (fun _ _ => Row.describes_of_ofRow) h

theorem Row.AreRead.type_eq {rows : List Row} {columns : List Column}
    (h : Row.AreRead rows columns) : ∀ column ∈ columns, column.type = .parse column.rawType := by
  induction h.forall₂_describes with
  | nil => exact List.forall_mem_nil _
  | @cons row column rows columns hrow hrows ih =>
    rw [List.forall_mem_cons]
    exact ⟨by rw [hrow.type, hrow.rawType], ih (List.forall₂_cons.mp h).2⟩

namespace Table

/-- The diagnostics about types are those of the rows with unknown types. -/
theorem typeDiagnostics_of_areRead {table : Table} {rows : List Row}
    (h : Row.AreRead rows table.columns) :
    table.typeDiagnostics =
      (rows.filter fun row => (ColumnType.parse row.type).containsUnknown).map fun row =>
        .unknownType table.name row.columnName row.type := by
  unfold typeDiagnostics
  generalize table.columns = columns at h
  induction h.forall₂_describes with
  | nil => rfl
  | @cons row column rows columns hrow hrows ih =>
    have hrest := ih (List.forall₂_cons.mp h).2
    rw [List.filter_cons, List.filter_cons, hrow.type]
    split
    · rw [List.map_cons, List.map_cons, hrest, hrow.name, hrow.rawType]
    · exact hrest

/-- The diagnostics about types come first, and the others are about positions. -/
theorem diagnostics_eq (table : Table) :
    table.diagnostics =
      table.typeDiagnostics ++ table.diagnostics.filter Diagnostic.isAboutPosition := by
  rw [filter_isAboutPosition, diagnostics, List.append_assoc]

/-- As many diagnostics have the name and the spelling of an unknown type as columns do. -/
theorem count_diagnostics {table : Table} {rows : List Row} (h : Row.AreRead rows table.columns)
    {column : Column} (hcolumn : column ∈ table.columns)
    (hunknown : column.type.containsUnknown = true) :
    table.diagnostics.count (.unknownType table.name column.name column.rawType) =
      table.columns.countP fun c => c.name = column.name ∧ c.rawType = column.rawType := by
  have hothers : (table.diagnostics.filter Diagnostic.isAboutPosition).count
      (.unknownType table.name column.name column.rawType) = 0 := by
    rw [List.count_eq_zero]
    intro hmem
    exact Bool.false_ne_true (List.mem_filter.mp hmem).2
  rw [diagnostics_eq, List.count_append, hothers, Nat.add_zero, typeDiagnostics, List.count,
    List.countP_map, List.countP_filter]
  refine List.countP_congr fun c hc => ?_
  simp only [Function.comp_apply, beq_iff_eq, Bool.and_eq_true, decide_eq_true_eq,
    Diagnostic.unknownType.injEq, true_and, and_iff_left_iff_imp]
  intro hsame
  rw [h.type_eq c hc, hsame.2, ← h.type_eq column hcolumn]
  exact hunknown

/-- A target is unknown somewhere just when its column type is on a way that avoids keys of maps and
elements of vectors, and then the column type is known to be unknown somewhere. A table of catalog
rows has the diagnostics about unknown types in front of all others, in the order of the rows, one
for each row whose type is unknown somewhere. So each column whose field is declared with the word
`unknown` has one diagnostic with its name and the spelling of its type; columns that agree in both
have one each. -/
theorem unknown_announced :
    (∀ t : ColumnType,
      (Leads TargetType.arguments t.target .unknown ↔
        Leads ColumnType.shownArguments t .unknown) ∧
      (t.containsUnknown = true ↔ Leads ColumnType.arguments t .unknown) ∧
      (Leads TargetType.arguments t.target .unknown → t.containsUnknown = true)) ∧
    ∀ (table : Table) (rows : List Row), Row.AreRead rows table.columns →
      (∃ others : List Diagnostic, (∀ d ∈ others, d.isAboutPosition = true) ∧
        table.diagnostics =
          ((rows.filter fun row => (ColumnType.parse row.type).containsUnknown).map fun row =>
            .unknownType table.name row.columnName row.type) ++ others) ∧
      ∀ column ∈ table.columns,
        "unknown".toList <:+: (Model.columnField column).target.text.toList →
        table.diagnostics.count (.unknownType table.name column.name column.rawType) =
          table.columns.countP fun c => c.name = column.name ∧ c.rawType = column.rawType := by
  have hcontains : ∀ t : ColumnType, Leads TargetType.arguments t.target .unknown →
      t.containsUnknown = true := by
    intro t ht
    rw [ColumnType.target_leads_iff] at ht
    exact t.containsUnknown_iff.mpr (ht.mono ColumnType.shownArguments_subset)
  refine ⟨fun t => ⟨t.target_leads_iff, t.containsUnknown_iff, hcontains t⟩, ?_⟩
  intro table rows h
  refine ⟨⟨_, ?_, typeDiagnostics_of_areRead h ▸ table.diagnostics_eq⟩, ?_⟩
  · intro d hd
    exact (List.mem_filter.mp hd).2
  · intro column hcolumn hword
    have htext : (Model.columnField column).target.text.toList = column.type.target.chars :=
      String.toList_ofList
    rw [htext, TargetType.isInfix_unknown_iff] at hword
    exact count_diagnostics h hcolumn (hcontains _ hword)

/-- Rows of which three have an unknown type somewhere. -/
def obscureRows : List Row :=
  [⟨"places", "id", none, "partition_key", 0, "uuid"⟩,
    ⟨"places", "home", none, "regular", -1, "frozen<Address>"⟩,
    ⟨"places", "near", none, "regular", -1, "map<address, int>"⟩,
    ⟨"places", "tags", none, "static", -1, "list<address>"⟩]

/-- The table of these rows. -/
def obscure : Table where
  name := "places"
  columns :=
    [⟨"places", "id", .partitionKey, 0, "uuid", .parse "uuid", .none⟩,
      ⟨"places", "home", .regular, -1, "frozen<Address>", .parse "frozen<Address>", .none⟩,
      ⟨"places", "near", .regular, -1, "map<address, int>", .parse "map<address, int>", .none⟩,
      ⟨"places", "tags", .static, -1, "list<address>", .parse "list<address>", .none⟩]

/-- The unknown key is announced although the field of the map does not show it. -/
theorem unknown_announced_obscure :
    Row.AreRead obscureRows obscure.columns ∧
    (∃ others : List Diagnostic, (∀ d ∈ others, d.isAboutPosition = true) ∧
      obscure.diagnostics =
        [.unknownType "places" "home" "frozen<Address>",
          .unknownType "places" "near" "map<address, int>",
          .unknownType "places" "tags" "list<address>"] ++ others) ∧
    ((ColumnType.parse "map<address, int>").target.text = "Record<string, number>" ∧
      (ColumnType.parse "list<address>").target.text = "unknown[]") ∧
    obscure.diagnostics.count (.unknownType "places" "tags" "list<address>") = 1 := by
  have hread : Row.AreRead obscureRows obscure.columns :=
    .cons rfl (.cons rfl (.cons rfl (.cons rfl .nil)))
  obtain ⟨⟨others, hothers, hdiagnostics⟩, hcount⟩ := unknown_announced.2 obscure _ hread
  have hrows : (obscureRows.filter fun row => (ColumnType.parse row.type).containsUnknown).map
      (fun row => Diagnostic.unknownType obscure.name row.columnName row.type) =
      [.unknownType "places" "home" "frozen<Address>",
        .unknownType "places" "near" "map<address, int>",
        .unknownType "places" "tags" "list<address>"] := by
    decide +kernel
  have hmap : (ColumnType.parse "map<address, int>").target.text = "Record<string, number>" := by
    decide +kernel
  have hlist : (ColumnType.parse "list<address>").target.text = "unknown[]" := by
    decide +kernel
  have htags := hcount ⟨"places", "tags", .static, -1, "list<address>", .parse "list<address>",
    .none⟩ (by simp [obscure]) (hlist ▸ by decide)
  refine ⟨hread, ⟨others, hothers, hrows ▸ hdiagnostics⟩, ⟨hmap, hlist⟩, htags.trans ?_⟩
  decide

end Table

end WideColumn
