import Mathlib.Data.List.Induction
import WideColumn.Schema.Table

/-!
# Grouping rows into tables

Reading rows succeeds or stops at the first row whose role is not known, and what it reads is then
grouped by table. Neither step looks across tables: leaving out the rows of some tables leaves out
those tables and changes no other.

* `mapM_ofRow`: what reading rows gives.
* `ofRows_eq`: what grouping rows gives, with both of its errors.
* `ofColumns_filter`: grouping some tables is grouping all, and then choosing.
* `nodup_names`, `columns_of_mem_ofColumns`: each name has one table, with all of its columns.
-/

namespace WideColumn

/-! ## Reading rows -/

/-- The role of the row is one of the four. -/
def Row.hasKnownKind (row : Row) : Bool := (ColumnKind.ofName? row.kind).isSome

/-- The column that a row describes, if its role is known. -/
def Column.ofRow? (row : Row) : Option Column := (Column.ofRow row).toOption

/-- The error that a row with a role that is not known is reported by. -/
def Row.unknownKind (row : Row) : SchemaError :=
  .unknownKind row.tableName row.columnName row.kind

theorem Column.ofRow_eq (row : Row) :
    (row.hasKnownKind = false ∧ Column.ofRow row = .error row.unknownKind) ∨
      (row.hasKnownKind = true ∧ ∃ column, Column.ofRow row = .ok column ∧
        column.tableName = row.tableName) := by
  unfold Row.hasKnownKind Column.ofRow
  cases ColumnKind.ofName? row.kind with
  | none => exact .inl ⟨rfl, rfl⟩
  | some kind => exact .inr ⟨rfl, _, rfl, rfl⟩

theorem Column.tableName_of_ofRow? {row : Row} {column : Column}
    (h : Column.ofRow? row = some column) : column.tableName = row.tableName := by
  unfold Column.ofRow? at h
  rcases Column.ofRow_eq row with ⟨-, hrow⟩ | ⟨-, c, hrow, hname⟩
  · rw [hrow] at h
    exact absurd h (by simp [Except.toOption])
  · rw [hrow] at h
    obtain rfl : c = column := Option.some.inj h
    exact hname

namespace Tables

/-- The first row whose role is not known is reported. If there is none, every row gives a
column. -/
theorem mapM_ofRow (rows : List Row) :
    rows.mapM Column.ofRow =
      match rows.find? (!·.hasKnownKind) with
      | some row => .error row.unknownKind
      | none => .ok (rows.filterMap Column.ofRow?) := by
  induction rows with
  | nil => rfl
  | cons row rows ih =>
    rw [List.mapM_cons, ih]
    rcases Column.ofRow_eq row with ⟨hkind, hrow⟩ | ⟨hkind, column, hrow, -⟩
    · rw [hrow, List.find?_cons_of_pos (by simp [hkind])]
      rfl
    · have hcolumn : Column.ofRow? row = some column := by rw [Column.ofRow?, hrow]; rfl
      rw [hrow, List.find?_cons_of_neg (by simp [hkind]), List.filterMap_cons_some hcolumn]
      cases rows.find? (!·.hasKnownKind) with
      | none => rfl
      | some bad => rfl

/-! ## Grouping columns -/

theorem ofColumns_concat (columns : List Column) (column : Column) :
    ofColumns (columns ++ [column]) = insert column (ofColumns columns) := by
  rw [ofColumns, List.foldl_append]
  rfl

theorem has_insert (column : Column) (tables : List Table) (name : String) :
    has (insert column tables) name = (has tables name || column.tableName == name) := by
  induction tables with
  | nil => simp [insert, has]
  | cons table rest ih =>
    unfold has at ih
    by_cases h : table.name = column.tableName
    · simp [insert, has, h, Bool.or_right_comm]
    · simp [insert, has, h, ih, Bool.or_assoc]

/-- A table is among the tables when it has a column. -/
theorem has_ofColumns (columns : List Column) (name : String) :
    has (ofColumns columns) name = columns.any (·.tableName == name) := by
  induction columns using List.reverseRecOn with
  | nil => rfl
  | append_singleton columns column ih =>
    rw [ofColumns_concat, has_insert, ih, List.any_append]
    simp

theorem insert_filter (p : String → Bool) (column : Column) (tables : List Table) :
    (insert column tables).filter (p ·.name) =
      if p column.tableName then insert column (tables.filter (p ·.name))
      else tables.filter (p ·.name) := by
  induction tables with
  | nil => cases hp : p column.tableName <;> simp [insert, hp]
  | cons table rest ih =>
    by_cases h : table.name = column.tableName
    · cases hp : p column.tableName <;> simp [insert, h, hp]
    · cases ht : p table.name <;> cases hp : p column.tableName <;> simp_all [insert]

/-- Grouping the columns of some tables is grouping all columns and choosing those tables. -/
theorem ofColumns_filter (p : String → Bool) (columns : List Column) :
    ofColumns (columns.filter (p ·.tableName)) = (ofColumns columns).filter (p ·.name) := by
  induction columns using List.reverseRecOn with
  | nil => rfl
  | append_singleton columns column ih =>
    rw [ofColumns_concat, insert_filter, List.filter_append, ← ih]
    cases hp : p column.tableName with
    | false => simp [hp]
    | true => simp [hp, ofColumns_concat]

/-! ## One table for each name -/

theorem names_insert (column : Column) (tables : List Table) :
    (insert column tables).map (·.name) =
      if has tables column.tableName then tables.map (·.name)
      else tables.map (·.name) ++ [column.tableName] := by
  induction tables with
  | nil => rfl
  | cons table rest ih =>
    by_cases h : table.name = column.tableName
    · simp [insert, has, h]
    · have hrest : has (table :: rest) column.tableName = has rest column.tableName := by
        simp [has, h]
      rw [hrest, insert, if_neg h, List.map_cons, ih]
      split <;> rfl

theorem nodup_names (columns : List Column) : ((ofColumns columns).map (·.name)).Nodup := by
  induction columns using List.reverseRecOn with
  | nil => exact List.nodup_nil
  | append_singleton columns column ih =>
    rw [ofColumns_concat, names_insert]
    split
    · exact ih
    · rename_i hnew
      refine List.nodup_append.mpr ⟨ih, List.pairwise_singleton _ _, ?_⟩
      rintro name hname other hother rfl
      obtain ⟨table, htable, rfl⟩ := List.mem_map.mp hname
      rw [List.mem_singleton] at hother
      exact hnew (List.any_eq_true.mpr ⟨table, htable, by simp [hother]⟩)

/-- Columns of one table make up one table, which has all of them. -/
theorem ofColumns_of_forall {columns : List Column} {name : String} (hne : columns ≠ [])
    (h : ∀ c ∈ columns, c.tableName = name) : ofColumns columns = [⟨name, columns⟩] := by
  induction columns using List.reverseRecOn with
  | nil => exact absurd rfl hne
  | append_singleton columns column ih =>
    rw [List.forall_mem_append, List.forall_mem_singleton] at h
    rw [ofColumns_concat]
    by_cases hempty : columns = []
    · subst hempty
      simp [ofColumns, insert, h.2]
    · simp [ih hempty h.1, insert, h.2]

/-- A table has the columns that belong to it, in their order. -/
theorem columns_of_mem_ofColumns {columns : List Column} {table : Table}
    (h : table ∈ ofColumns columns) :
    table.columns = columns.filter (·.tableName == table.name) := by
  have hchosen : table ∈ ofColumns (columns.filter (·.tableName == table.name)) := by
    rw [ofColumns_filter (· == table.name)]
    exact List.mem_filter.mpr ⟨h, by simp⟩
  have hne : columns.filter (·.tableName == table.name) ≠ [] := by
    intro hnil
    rw [hnil] at hchosen
    exact absurd hchosen List.not_mem_nil
  rw [ofColumns_of_forall hne fun c hc => by simpa using (List.mem_filter.mp hc).2,
    List.mem_singleton] at hchosen
  exact congrArg Table.columns hchosen

/-! ## Grouping rows -/

theorem any_filterMap_ofRow? {rows : List Row} (h : ∀ row ∈ rows, row.hasKnownKind = true)
    (name : String) :
    (rows.filterMap Column.ofRow?).any (·.tableName == name) =
      rows.any (·.tableName == name) := by
  induction rows with
  | nil => rfl
  | cons row rows ih =>
    have ih := ih fun r hr => h r (List.mem_cons_of_mem row hr)
    rcases Column.ofRow_eq row with ⟨hkind, -⟩ | ⟨-, column, hrow, hname⟩
    · rw [h row List.mem_cons_self] at hkind
      exact absurd hkind (by decide)
    · have hcolumn : Column.ofRow? row = some column := by rw [Column.ofRow?, hrow]; rfl
      rw [List.filterMap_cons_some hcolumn, List.any_cons, List.any_cons, ih, hname]

/-- Of the rows of a request the first with a role that is not known is reported, and otherwise the
first name that no row has. -/
theorem ofRows_eq (rows : List Row) (requested : List String) :
    ofRows rows requested =
      match rows.find? (!·.hasKnownKind) with
      | some row => .error row.unknownKind
      | none =>
        match requested.find? fun name => !rows.any (·.tableName == name) with
        | some missing => .error (.emptyTable missing)
        | none => .ok (ofColumns (rows.filterMap Column.ofRow?)) := by
  unfold ofRows
  rw [mapM_ofRow]
  cases hbad : rows.find? (!·.hasKnownKind) with
  | some row => rfl
  | none =>
    have hknown : ∀ row ∈ rows, row.hasKnownKind = true := by
      intro row hrow
      simpa using List.find?_eq_none.mp hbad row hrow
    have hhas : ∀ name, has (ofColumns (rows.filterMap Column.ofRow?)) name =
        rows.any (·.tableName == name) := by
      intro name
      rw [has_ofColumns, any_filterMap_ofRow? hknown]
    cases hmissing : requested.find? fun name => !rows.any (·.tableName == name) with
    | some missing => simp only [hhas, hmissing]
    | none => simp only [hhas, hmissing]

/-- Leaving out the rows of some tables leaves out those tables. -/
theorem filterMap_filter_ofRow? (p : String → Bool) (rows : List Row) :
    (rows.filter (p ·.tableName)).filterMap Column.ofRow? =
      (rows.filterMap Column.ofRow?).filter (p ·.tableName) := by
  induction rows with
  | nil => rfl
  | cons row rows ih =>
    cases hcolumn : Column.ofRow? row with
    | none =>
      rw [List.filterMap_cons_none hcolumn, ← ih]
      cases hp : p row.tableName with
      | false => simp [hp]
      | true => simp [hp, hcolumn]
    | some column =>
      have hname := Column.tableName_of_ofRow? hcolumn
      rw [List.filterMap_cons_some hcolumn]
      cases hp : p row.tableName with
      | false => simp [hp, hname, ih]
      | true => simp [hp, hcolumn, hname, ih]

end Tables

end WideColumn
