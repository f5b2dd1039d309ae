import Mathlib.Algebra.GroupWithZero.Nat
import Mathlib.Data.List.Forall2
import WideColumn.Proofs.Schema.Grouping

/-!
# Tables in the order in which they are first seen

Grouping loses no row, makes up none and moves none: the tables are named by the table names of the
rows, each where it comes first, and the columns of a table are its rows, one for one. It fails only
at a row whose role is not known, or at a name that was asked for and that no row has, and it
reports the first of these.

Main definitions: `Row.Describes`, `Tables.Groups`.
Main result: `Tables.ofRows_groups`.
-/

namespace WideColumn

/-! ## Rows and columns -/

/-- The names of the roles. -/
def ColumnKind.names : List String := all.map name

theorem ColumnKind.name_mem_names (kind : ColumnKind) : kind.name ∈ names := by
  cases kind <;> decide

theorem ColumnKind.name_of_ofName? {s : String} {kind : ColumnKind} (h : ofName? s = some kind) :
    kind.name = s := by
  unfold ofName? at h
  simpa using List.find?_some h

/-- The column has what the row says, word for word, with the role, the type and the direction
read. -/
structure Row.Describes (row : Row) (column : Column) : Prop where
  tableName : column.tableName = row.tableName
  name : column.name = row.columnName
  kind : column.kind.name = row.kind
  position : column.position = row.position
  rawType : column.rawType = row.type
  type : column.type = .parse row.type
  order : column.order = .parse row.clusteringOrder

theorem Row.hasKnownKind_iff {row : Row} :
    row.hasKnownKind = true ↔ row.kind ∈ ColumnKind.names := by
  unfold hasKnownKind
  constructor
  · intro h
    obtain ⟨kind, hkind⟩ := Option.isSome_iff_exists.mp h
    rw [← ColumnKind.name_of_ofName? hkind]
    exact kind.name_mem_names
  · intro h
    obtain ⟨kind, -, hkind⟩ := List.mem_map.mp h
    rw [← hkind, ColumnKind.ofName?_name]
    rfl

/-- A row whose role is known describes the column that it is read as. -/
theorem Row.describes_of_ofRow? {row : Row} {column : Column}
    (h : Column.ofRow? row = some column) : row.Describes column := by
  unfold Column.ofRow? Column.ofRow at h
  cases hkind : ColumnKind.ofName? row.kind with
  | none =>
    rw [hkind] at h
    exact absurd h (by simp [Except.toOption])
  | some kind =>
    rw [hkind] at h
    obtain rfl := Option.some.inj h
    exact ⟨rfl, rfl, ColumnKind.name_of_ofName? hkind, rfl, rfl, rfl, rfl⟩

theorem Row.exists_ofRow? {row : Row} (h : row.hasKnownKind = true) :
    ∃ column, Column.ofRow? row = some column := by
  unfold Column.ofRow?
  rcases Column.ofRow_eq row with ⟨hkind, -⟩ | ⟨-, column, hrow, -⟩
  · exact absurd (h.symm.trans hkind) (by decide)
  · exact ⟨column, by rw [hrow]; rfl⟩

/-- Rows are read as columns one for one, if their roles are known. -/
theorem Row.forall₂_describes {rows : List Row} (h : ∀ row ∈ rows, row.hasKnownKind = true) :
    List.Forall₂ Row.Describes rows (rows.filterMap Column.ofRow?) := by
  induction rows with
  | nil => exact .nil
  | cons row rows ih =>
    rw [List.forall_mem_cons] at h
    obtain ⟨column, hcolumn⟩ := Row.exists_ofRow? h.1
    rw [List.filterMap_cons_some hcolumn]
    exact .cons (Row.describes_of_ofRow? hcolumn) (ih h.2)

namespace Tables

/-! ## Grouping -/

/-- The tables are the rows, grouped: one table for each name, in the order in which the names come
first, with the rows of that name as its columns, in their order. -/
structure Groups (rows : List Row) (tables : List Table) : Prop where
  names : tables.map (·.name) = (rows.map (·.tableName)).eraseDups
  columns : ∀ table ∈ tables, List.Forall₂ Row.Describes
    (rows.filter fun row => row.tableName = table.name) table.columns

theorem eraseDups_concat {α : Type} [BEq α] [LawfulBEq α] (l : List α) (a : α) :
    (l ++ [a]).eraseDups = if l.contains a then l.eraseDups else l.eraseDups ++ [a] := by
  rw [List.eraseDups_append, List.removeAll]
  by_cases h : a ∈ l
  · rw [List.filter_cons_of_neg (by simp [h]), if_pos (by simpa using h)]
    simp
  · rw [List.filter_cons_of_pos (by simp [h]), if_neg (by simpa using h)]
    rfl

/-- A column of a new table adds its name at the end, and any other column none. -/
theorem names_ofColumns (columns : List Column) :
    (ofColumns columns).map (·.name) = (columns.map (·.tableName)).eraseDups := by
  induction columns using List.reverseRecOn with
  | nil => rfl
  | append_singleton columns column ih =>
    have hnew : has (ofColumns columns) column.tableName =
        (columns.map (·.tableName)).contains column.tableName := by
      rw [has_ofColumns, List.contains_eq_any_beq, List.any_map]
      exact congrArg columns.any (funext fun c => BEq.comm)
    rw [ofColumns_concat, names_insert, ih, hnew, List.map_append, List.map_singleton,
      eraseDups_concat]

/-- Each column goes to one table. -/
theorem sum_length_insert (column : Column) (tables : List Table) :
    ((insert column tables).map (·.columns.length)).sum =
      (tables.map (·.columns.length)).sum + 1 := by
  induction tables with
  | nil => rfl
  | cons table rest ih =>
    rw [insert]
    split
    · simp only [List.map_cons, List.sum_cons, List.length_append, List.length_singleton]
      omega
    · simp only [List.map_cons, List.sum_cons, ih]
      omega

theorem sum_length_ofColumns (columns : List Column) :
    ((ofColumns columns).map (·.columns.length)).sum = columns.length := by
  induction columns using List.reverseRecOn with
  | nil => rfl
  | append_singleton columns column ih =>
    rw [ofColumns_concat, sum_length_insert, ih, List.length_append, List.length_singleton]

variable {rows : List Row}

theorem groups_ofColumns (known : ∀ row ∈ rows, row.hasKnownKind = true) :
    Groups rows (ofColumns (rows.filterMap Column.ofRow?)) where
  names := by
    rw [names_ofColumns]
    refine congrArg List.eraseDups (List.forall₂_eq_eq_eq ▸ ?_)
    rw [List.forall₂_map_left_iff, List.forall₂_map_right_iff]
    exact ((Row.forall₂_describes known).flip.imp fun _ _ h => h.tableName)
  columns := by
    intro table htable
    have hchosen : ∀ row ∈ rows.filter fun row => row.tableName = table.name,
        row.hasKnownKind = true := fun row hrow => known row (List.mem_of_mem_filter hrow)
    have hcolumns := columns_of_mem_ofColumns htable
    rw [← filterMap_filter_ofRow? (· == table.name)] at hcolumns
    rw [hcolumns]
    exact Row.forall₂_describes hchosen

/-- A table has a column, for its name is that of a row. -/
theorem Groups.columns_ne_nil {tables : List Table} (h : Groups rows tables) {table : Table}
    (htable : table ∈ tables) : table.columns ≠ [] := by
  have hname : table.name ∈ (rows.map (·.tableName)).eraseDups :=
    h.names ▸ List.mem_map_of_mem htable
  rw [List.mem_eraseDups, List.mem_map] at hname
  obtain ⟨row, hrow, hname⟩ := hname
  have hlength := (h.columns table htable).length_eq
  have hmem : row ∈ rows.filter fun row => row.tableName = table.name :=
    List.mem_filter.mpr ⟨hrow, decide_eq_true hname⟩
  rw [← List.length_pos_iff, ← hlength]
  exact List.length_pos_of_mem hmem

theorem tableName_of_mem_ofColumns {columns : List Column} {table : Table}
    (h : table ∈ ofColumns columns) : ∀ column ∈ table.columns, column.tableName = table.name := by
  intro column hcolumn
  rw [columns_of_mem_ofColumns h] at hcolumn
  simpa using (List.mem_filter.mp hcolumn).2

/-! ## What a request gives -/

theorem find?_unknown_iff {row : Row} :
    rows.find? (!·.hasKnownKind) = some row ↔ ∃ before after, rows = before ++ row :: after ∧
      (∀ r ∈ before, r.kind ∈ ColumnKind.names) ∧ row.kind ∉ ColumnKind.names := by
  simp only [List.find?_eq_some_iff_append, Bool.not_not, Bool.not_eq_true', ← Row.hasKnownKind_iff,
    Bool.not_eq_true]
  constructor
  · rintro ⟨hrow, before, after, hrows, hbefore⟩
    exact ⟨before, after, hrows, hbefore, hrow⟩
  · rintro ⟨before, after, hrows, hbefore, hrow⟩
    exact ⟨hrow, before, after, hrows, hbefore⟩

theorem find?_unknown_eq_none_iff :
    rows.find? (!·.hasKnownKind) = none ↔ ∀ row ∈ rows, row.kind ∈ ColumnKind.names := by
  simp only [List.find?_eq_none, Bool.not_eq_true', Bool.not_eq_false, Row.hasKnownKind_iff]

theorem any_tableName_iff {name : String} :
    rows.any (·.tableName == name) = true ↔ ∃ row ∈ rows, row.tableName = name := by
  simp

theorem find?_missing_iff {requested : List String} {name : String} :
    requested.find? (fun name => !rows.any (·.tableName == name)) = some name ↔
      ∃ before after, requested = before ++ name :: after ∧
        (∀ other ∈ before, ∃ row ∈ rows, row.tableName = other) ∧
        ∀ row ∈ rows, row.tableName ≠ name := by
  simp only [List.find?_eq_some_iff_append, Bool.not_not, any_tableName_iff]
  constructor
  · rintro ⟨hname, before, after, hrequested, hbefore⟩
    exact ⟨before, after, hrequested, hbefore, by simpa using hname⟩
  · rintro ⟨before, after, hrequested, hbefore, hname⟩
    exact ⟨by simpa using hname, before, after, hrequested, hbefore⟩

theorem find?_missing_eq_none_iff {requested : List String} :
    requested.find? (fun name => !rows.any (·.tableName == name)) = none ↔
      ∀ name ∈ requested, ∃ row ∈ rows, row.tableName = name := by
  simp only [List.find?_eq_none, Bool.not_eq_true', Bool.not_eq_false, any_tableName_iff]

/-- A role that is not known is reported just if some row has one, and the first such row is. -/
theorem ofRows_unknownKind_iff {requested : List String} {table column kind : String} :
    ofRows rows requested = .error (.unknownKind table column kind) ↔
      ∃ before row after, rows = before ++ row :: after ∧
        (∀ r ∈ before, r.kind ∈ ColumnKind.names) ∧ row.kind ∉ ColumnKind.names ∧
        row.tableName = table ∧ row.columnName = column ∧ row.kind = kind := by
  have hfirst : ofRows rows requested = .error (.unknownKind table column kind) ↔
      ∃ row, rows.find? (!·.hasKnownKind) = some row ∧
        row.tableName = table ∧ row.columnName = column ∧ row.kind = kind := by
    rw [ofRows_eq]
    cases rows.find? (!·.hasKnownKind) with
    | some row => simp [Row.unknownKind]
    | none =>
      dsimp only
      split <;> simp
  simp only [hfirst, find?_unknown_iff]
  constructor
  · rintro ⟨row, ⟨before, after, hrows, hbefore, hrow⟩, hnames⟩
    exact ⟨before, row, after, hrows, hbefore, hrow, hnames⟩
  · rintro ⟨before, row, after, hrows, hbefore, hrow, hnames⟩
    exact ⟨row, ⟨before, after, hrows, hbefore, hrow⟩, hnames⟩

/-- A name that no row has is reported just if all roles are known, and the first such name is. -/
theorem ofRows_emptyTable_iff {requested : List String} {name : String} :
    ofRows rows requested = .error (.emptyTable name) ↔
      (∀ row ∈ rows, row.kind ∈ ColumnKind.names) ∧
      ∃ before after, requested = before ++ name :: after ∧
        (∀ other ∈ before, ∃ row ∈ rows, row.tableName = other) ∧
        ∀ row ∈ rows, row.tableName ≠ name := by
  rw [← find?_unknown_eq_none_iff, ← find?_missing_iff, ofRows_eq]
  cases rows.find? (!·.hasKnownKind) with
  | some row => simp [Row.unknownKind]
  | none =>
    cases requested.find? fun name => !rows.any (·.tableName == name) <;> simp

/-- There are tables just if all roles are known and every name that was asked for has a row. -/
theorem ofRows_ok_iff {requested : List String} {tables : List Table} :
    ofRows rows requested = .ok tables ↔
      (∀ row ∈ rows, row.kind ∈ ColumnKind.names) ∧
      (∀ name ∈ requested, ∃ row ∈ rows, row.tableName = name) ∧
      ofColumns (rows.filterMap Column.ofRow?) = tables := by
  rw [← find?_unknown_eq_none_iff, ← find?_missing_eq_none_iff, ofRows_eq]
  cases rows.find? (!·.hasKnownKind) with
  | some row => simp
  | none =>
    cases requested.find? fun name => !rows.any (·.tableName == name) <;> simp

/-- Grouping fails at the first row whose role is not known, and if there is none at the first name
that was asked for in vain; otherwise the tables are the rows, grouped. -/
theorem ofRows_groups (rows : List Row) (requested : List String) :
    (∀ table column kind, ofRows rows requested = .error (.unknownKind table column kind) ↔
      ∃ before row after, rows = before ++ row :: after ∧
        (∀ r ∈ before, r.kind ∈ ColumnKind.names) ∧ row.kind ∉ ColumnKind.names ∧
        row.tableName = table ∧ row.columnName = column ∧ row.kind = kind) ∧
    (∀ name, ofRows rows requested = .error (.emptyTable name) ↔
      (∀ row ∈ rows, row.kind ∈ ColumnKind.names) ∧
      ∃ before after, requested = before ++ name :: after ∧
        (∀ other ∈ before, ∃ row ∈ rows, row.tableName = other) ∧
        ∀ row ∈ rows, row.tableName ≠ name) ∧
    ((∃ tables, ofRows rows requested = .ok tables) ↔
      (∀ row ∈ rows, row.kind ∈ ColumnKind.names) ∧
      ∀ name ∈ requested, ∃ row ∈ rows, row.tableName = name) ∧
    ∀ tables, ofRows rows requested = .ok tables →
      Groups rows tables ∧
      (∀ table ∈ tables, table.columns ≠ [] ∧
        ∀ column ∈ table.columns, column.tableName = table.name) ∧
      (tables.map (·.columns.length)).sum = rows.length := by
  refine ⟨fun _ _ _ => ofRows_unknownKind_iff, fun _ => ofRows_emptyTable_iff, ?_,
    fun tables h => ?_⟩
  · constructor
    · rintro ⟨tables, h⟩
      obtain ⟨hknown, hrequested, -⟩ := ofRows_ok_iff.mp h
      exact ⟨hknown, hrequested⟩
    · rintro ⟨hknown, hrequested⟩
      exact ⟨_, ofRows_ok_iff.mpr ⟨hknown, hrequested, rfl⟩⟩
  · obtain ⟨hknown, -, rfl⟩ := ofRows_ok_iff.mp h
    have hgroups : Groups rows (ofColumns (rows.filterMap Column.ofRow?)) :=
      groups_ofColumns fun row hrow => Row.hasKnownKind_iff.mpr (hknown row hrow)
    refine ⟨hgroups, fun table htable => ?_, ?_⟩
    · exact ⟨hgroups.columns_ne_nil htable, tableName_of_mem_ofColumns htable⟩
    · rw [sum_length_ofColumns]
      exact (Row.forall₂_describes fun row hrow =>
        Row.hasKnownKind_iff.mpr (hknown row hrow)).length_eq.symm

/-- Rows of two tables between one another. -/
def interleaved : List Row :=
  [⟨"users", "id", none, "partition_key", 0, "uuid"⟩,
    ⟨"messages", "sent", some " DESC", "clustering", 0, "timestamp"⟩,
    ⟨"users", "name", none, "regular", -1, "text"⟩,
    ⟨"messages", "room", none, "partition_key", 0, "frozen<text>"⟩]

/-- The tables come in the order of their first rows, not in that of the request. -/
theorem ofRows_groups_interleaved :
    ∃ tables, ofRows interleaved ["messages", "users"] = .ok tables ∧
      tables.map (·.name) = ["users", "messages"] ∧ Groups interleaved tables ∧
      (tables.map (·.columns.length)).sum = 4 := by
  obtain ⟨-, -, hok, htables⟩ := ofRows_groups interleaved ["messages", "users"]
  obtain ⟨tables, h⟩ := hok.mpr ⟨by decide, by decide⟩
  obtain ⟨hgroups, -, hcount⟩ := htables tables h
  refine ⟨tables, h, ?_, hgroups, hcount⟩
  rw [hgroups.names]
  decide

end Tables

end WideColumn
