import Mathlib.Data.List.Find
import WideColumn.Command.Load
import WideColumn.Proofs.Command.Run
import WideColumn.Proofs.Schema.Grouping
import WideColumn.Workspace

/-!
# Loading some tables or all

A request for some tables of a keyspace gives the same tables as a request for all of them: what a
table is made of does not depend on what else is asked for. The rows of a request are the entries
that it concerns, in the order of the dump, and nothing else of a fixture matters.

* `Fixture.tables_emptyKeyspace_iff`, `Fixture.tables_unknownKind_iff`,
  `Fixture.tables_of_tables_all`: what a request gives, from the entries it concerns.
* `Command.loadTables_apply`: loading logs what is odd about the tables, if there are any to load.
* `Command.loadTables_agree`: the requests of a keyspace agree.
-/

namespace WideColumn

/-! ## Entries -/

namespace Fixture

/-- The entry is one of the keyspace, or of every keyspace, and its table is asked for. -/
def concerns (keyspace : String) (requested : List String) (entry : FixtureEntry) : Bool :=
  decide ((entry.keyspace = none ∨ entry.keyspace = some keyspace) ∧
    (requested = [] ∨ entry.row.tableName ∈ requested))

/-- A request is answered by the rows that it concerns. -/
theorem fetch_eq (fixture : Fixture) (keyspace : String) (requested : List String) :
    fixture.fetch keyspace requested =
      (fixture.entries.filter (concerns keyspace requested)).map (·.row) := by
  refine congrArg (List.map _) (List.filter_congr fun entry _ => ?_)
  rw [Bool.eq_iff_iff]
  unfold belongsTo isAmong concerns
  cases entry.keyspace <;> cases requested <;> simp

/-- The rows of some tables are those among all rows. -/
theorem fetch_some (fixture : Fixture) (keyspace : String) {requested : List String}
    (h : requested ≠ []) :
    fixture.fetch keyspace requested =
      (fixture.fetch keyspace []).filter fun row => requested.contains row.tableName := by
  rw [fetch_eq, fetch_eq, List.filter_map, List.filter_filter]
  refine congrArg (List.map _) (List.filter_congr fun entry _ => ?_)
  simp [concerns, h, and_comm]

/-- The first row of a request with a role that is not known is that of the first such entry. -/
theorem find?_fetch (fixture : Fixture) (keyspace : String) (requested : List String) :
    (fixture.fetch keyspace requested).find? (!·.hasKnownKind) =
      (fixture.entries.find? fun entry =>
        concerns keyspace requested entry && !entry.row.hasKnownKind).map (·.row) := by
  rw [fetch_eq, List.find?_map, List.find?_filter]
  simp

/-! ## Requests -/

/-- A request that names tables, or has rows to answer it with, is answered by its rows. -/
theorem tables_eq_ofRows {fixture : Fixture} {keyspace : String} {requested : List String}
    (h : fixture.fetch keyspace requested ≠ [] ∨ requested ≠ []) :
    fixture.tables keyspace requested =
      Tables.ofRows (fixture.fetch keyspace requested) requested := by
  have hnot : ((fixture.fetch keyspace requested).isEmpty && requested.isEmpty) = false := by
    rw [Bool.and_eq_false_iff, List.isEmpty_eq_false_iff, List.isEmpty_eq_false_iff]
    exact h
  unfold tables
  dsimp only
  rw [hnot]
  rfl

theorem ofRows_ne_emptyKeyspace (rows : List Row) (requested : List String) (keyspace : String) :
    Tables.ofRows rows requested ≠ .error (.emptyKeyspace keyspace) := by
  rw [Tables.ofRows_eq]
  split
  · simp [Row.unknownKind]
  · split <;> simp

/-- All tables are refused as an empty keyspace just when no row is to be had. -/
theorem tables_emptyKeyspace_iff (fixture : Fixture) (keyspace : String) :
    fixture.tables keyspace [] = .error (.emptyKeyspace keyspace) ↔
      ∀ entry ∈ fixture.entries, entry.keyspace ≠ none ∧ entry.keyspace ≠ some keyspace := by
  have hrows : fixture.fetch keyspace [] = [] ↔
      ∀ entry ∈ fixture.entries, entry.keyspace ≠ none ∧ entry.keyspace ≠ some keyspace := by
    simp [fetch_eq, concerns]
  rw [← hrows]
  constructor
  · intro h
    by_contra hne
    rw [tables_eq_ofRows (.inl hne)] at h
    exact ofRows_ne_emptyKeyspace _ _ _ h
  · intro h
    unfold tables
    rw [h]
    rfl

/-- A role that is not known is reported if there is one among the rows of the request, and the
first one is. -/
theorem tables_unknownKind_iff (fixture : Fixture) (keyspace : String) (requested : List String)
    (table column kind : String) :
    fixture.tables keyspace requested = .error (.unknownKind table column kind) ↔
      ∃ entry, fixture.entries.find? (fun entry =>
          concerns keyspace requested entry && !entry.row.hasKnownKind) = some entry ∧
        entry.row.tableName = table ∧ entry.row.columnName = column ∧ entry.row.kind = kind := by
  have hfirst := find?_fetch fixture keyspace requested
  by_cases h : fixture.fetch keyspace requested ≠ [] ∨ requested ≠ []
  · rw [tables_eq_ofRows h, Tables.ofRows_eq, hfirst]
    cases fixture.entries.find? fun entry =>
        concerns keyspace requested entry && !entry.row.hasKnownKind with
    | some entry => simp [Row.unknownKind]
    | none =>
      rw [Option.map_none]
      dsimp only
      split <;> simp
  · -- Without rows there is no role to be reported, and the keyspace is empty.
    obtain ⟨hrows, rfl⟩ : fixture.fetch keyspace requested = [] ∧ requested = [] := by
      simpa [not_or] using h
    rw [hrows] at hfirst
    have hnone := Option.map_eq_none_iff.mp hfirst.symm
    rw [hnone]
    unfold tables
    rw [hrows]
    simp

/-- If all tables can be had, then a request for some of them fails at the first one that is not
among them, and else it chooses from them. -/
theorem tables_of_tables_all {fixture : Fixture} {keyspace : String} {all : List Table}
    (hall : fixture.tables keyspace [] = .ok all) {requested : List String}
    (h : requested ≠ []) :
    fixture.tables keyspace requested =
      match requested.find? fun name => !Tables.has all name with
      | some missing => .error (.emptyTable missing)
      | none => .ok (all.filter fun table => requested.contains table.name) := by
  have hrows : fixture.fetch keyspace [] ≠ [] := by
    intro hempty
    unfold tables at hall
    rw [hempty] at hall
    exact absurd hall (by simp)
  rw [tables_eq_ofRows (.inl hrows), Tables.ofRows_eq] at hall
  rw [tables_eq_ofRows (.inr h), Tables.ofRows_eq, fetch_some fixture keyspace h]
  generalize fixture.fetch keyspace [] = rows at hall
  cases hbad : rows.find? (!·.hasKnownKind) with
  | some row =>
    rw [hbad] at hall
    exact absurd hall (by simp)
  | none =>
    have hknown : ∀ row ∈ rows, row.hasKnownKind = true := by
      intro row hrow
      simpa using List.find?_eq_none.mp hbad row hrow
    have hchosen : (rows.filter fun row => requested.contains row.tableName).find?
        (!·.hasKnownKind) = none := by
      refine List.find?_eq_none.mpr fun row hrow => ?_
      simp [hknown row (List.mem_filter.mp hrow |>.1)]
    rw [hbad] at hall
    obtain rfl : Tables.ofColumns (rows.filterMap Column.ofRow?) = all := Except.ok.inj hall
    -- A name that is asked for has rows among the chosen ones if it has any.
    have hmissing : requested.find? (fun name =>
          !(rows.filter fun row => requested.contains row.tableName).any (·.tableName == name)) =
        requested.find? fun name =>
          !Tables.has (Tables.ofColumns (rows.filterMap Column.ofRow?)) name := by
      refine List.find?_congr fun name hname => ?_
      rw [Tables.has_ofColumns, Tables.any_filterMap_ofRow? hknown, List.any_filter]
      refine congrArg (fun p => !rows.any p) (funext fun row => ?_)
      by_cases hrow : row.tableName = name
      · simp [hrow, hname]
      · simp [hrow]
    rw [hchosen]
    dsimp only
    rw [hmissing]
    cases requested.find? fun name =>
      !Tables.has (Tables.ofColumns (rows.filterMap Column.ofRow?)) name with
    | some missing => rfl
    | none =>
      show Except.ok (Tables.ofColumns ((rows.filter _).filterMap Column.ofRow?)) = _
      rw [Tables.filterMap_filter_ofRow? requested.contains,
        Tables.ofColumns_filter requested.contains]

/-- Entries that a request does not concern have no part in its answer. -/
theorem tables_congr {fixture other : Fixture} {keyspace : String} {requested : List String}
    (h : other.entries.filter (concerns keyspace requested) =
      fixture.entries.filter (concerns keyspace requested)) :
    other.tables keyspace requested = fixture.tables keyspace requested := by
  unfold tables
  rw [fetch_eq, fetch_eq, h]

end Fixture

/-! ## The log -/

namespace Workspace

/-- The workspace after records are logged. -/
def logging (w : Workspace) (records : List Log.Record) : Workspace :=
  { w with events := w.events ++ records.map .logged }

theorem logging_nil (w : Workspace) : w.logging [] = w := by simp [logging]

theorem logging_logging (w : Workspace) (first second : List Log.Record) :
    (w.logging first).logging second = w.logging (first ++ second) := by simp [logging]

theorem forM_log {α : Type} (record : α → Log.Record) (l : List α) (w : Workspace) :
    l.forM (fun a => host.log (record a)) w = ((), w.logging (l.map record)) := by
  induction l generalizing w with
  | nil => exact congrArg (Prod.mk ()) w.logging_nil.symm
  | cons a l ih =>
    have hstep : (a :: l).forM (fun a => host.log (record a)) w =
        l.forM (fun a => host.log (record a)) (w.logging [record a]) := rfl
    rw [hstep, ih, logging_logging, List.map_cons, List.singleton_append]

end Workspace

namespace Command

/-- The record that tells of a diagnostic. -/
def warning (diagnostic : Diagnostic) : Log.Record :=
  { level := .warn, area := .commands, message := diagnostic.message }

/-- The record that tells that tables are loaded. -/
def loaded (keyspace : String) (tables : List Table) : Log.Record :=
  { level := .info
    area := .commands
    message := "loaded table schemas"
    fields := [.quoted "keyspace" keyspace, .count "tables" tables.length] }

theorem warn_apply (tables : List Table) (w : Workspace) :
    warn Workspace.host tables w =
      ((), w.logging ((tables.flatMap Table.diagnostics).map warning)) := by
  induction tables generalizing w with
  | nil => exact congrArg (Prod.mk ()) w.logging_nil.symm
  | cons table tables ih =>
    have hfirst := Workspace.forM_log warning table.diagnostics w
    have hstep : warn Workspace.host (table :: tables) w =
        warn Workspace.host tables
          (table.diagnostics.forM (fun d => Workspace.host.log (warning d)) w).2 := rfl
    rw [hstep, hfirst, ih, Workspace.logging_logging, List.flatMap_cons, List.map_append]

/-- Loading logs one warning for each diagnostic of the tables, in order, and then that they are
loaded; if they cannot be had it does nothing. -/
theorem loadTables_apply (fixture : Fixture) (keyspace : String) (requested : List String)
    (w : Workspace) :
    loadTables Workspace.host fixture keyspace requested w =
      (fixture.tables keyspace requested, match fixture.tables keyspace requested with
        | .error _ => w
        | .ok tables => w.logging
            ((tables.flatMap Table.diagnostics).map warning ++ [loaded keyspace tables])) := by
  unfold loadTables
  cases fixture.tables keyspace requested with
  | error e => rfl
  | ok tables =>
    dsimp only
    rw [bind_apply, warn_apply, ← Workspace.logging_logging]
    rfl

/-! ## Requests of one keyspace -/

/-- The requests of a keyspace agree. If all tables can be had, then a request for some of them
chooses from these, or fails at the first name that is not among them; whatever a request does not
concern has no part in its answer; and the warnings that are logged are the diagnostics of the
tables in the answer. -/
theorem loadTables_agree (fixture : Fixture) (keyspace : String) (requested : List String)
    (w : Workspace) :
    ((loadTables Workspace.host fixture keyspace [] w).1 = .error (.emptyKeyspace keyspace) ↔
      ∀ entry ∈ fixture.entries, entry.keyspace ≠ none ∧ entry.keyspace ≠ some keyspace) ∧
    (∀ all, (loadTables Workspace.host fixture keyspace [] w).1 = .ok all → requested ≠ [] →
      (loadTables Workspace.host fixture keyspace requested w).1 =
        match requested.find? fun name => !Tables.has all name with
        | some missing => .error (.emptyTable missing)
        | none => .ok (all.filter fun table => requested.contains table.name)) ∧
    (∀ other : Fixture,
      other.entries.filter (Fixture.concerns keyspace requested) =
        fixture.entries.filter (Fixture.concerns keyspace requested) →
      loadTables Workspace.host other keyspace requested w =
        loadTables Workspace.host fixture keyspace requested w) ∧
    (∀ table column kind,
      (loadTables Workspace.host fixture keyspace requested w).1 =
          .error (.unknownKind table column kind) ↔
        ∃ entry, fixture.entries.find? (fun entry =>
            Fixture.concerns keyspace requested entry && !entry.row.hasKnownKind) = some entry ∧
          entry.row.tableName = table ∧ entry.row.columnName = column ∧ entry.row.kind = kind) ∧
    (loadTables Workspace.host fixture keyspace requested w).2 =
      match (loadTables Workspace.host fixture keyspace requested w).1 with
      | .error _ => w
      | .ok tables => w.logging
          ((tables.flatMap Table.diagnostics).map warning ++ [loaded keyspace tables]) := by
  have hanswer : ∀ (fixture : Fixture) (requested : List String),
      (loadTables Workspace.host fixture keyspace requested w).1 =
        fixture.tables keyspace requested := by
    intro fixture requested
    rw [loadTables_apply]
  refine ⟨?_, fun all hall h => ?_, fun other h => ?_, fun table column kind => ?_, ?_⟩
  · rw [hanswer]
    exact fixture.tables_emptyKeyspace_iff keyspace
  · rw [hanswer] at hall ⊢
    exact Fixture.tables_of_tables_all hall h
  · rw [loadTables_apply, loadTables_apply, Fixture.tables_congr h]
  · rw [hanswer]
    exact fixture.tables_unknownKind_iff keyspace requested table column kind
  · rw [loadTables_apply]

/-- A row that is one of the key of its table, in the given role. -/
def keyRow (table column kind : String) : Row := ⟨table, column, none, kind, 0, "int"⟩

/-- The table of such rows. -/
def keyTable (name : String) (columns : List String) : Table where
  name
  columns := columns.map fun column =>
    { tableName := name, name := column, kind := .partitionKey, position := 0
      rawType := "int", type := .parse "int", order := .none }

/-- A dump of two keyspaces with rows of two tables between one another. In one of the keyspaces a
role is not known. -/
def taggedDump : Fixture where
  entries :=
    [⟨none, keyRow "users" "id" "partition_key"⟩, ⟨some "shop", keyRow "rooms" "id" "weird"⟩,
      ⟨some "chat", keyRow "rooms" "id" "partition_key"⟩,
      ⟨some "chat", keyRow "users" "day" "partition_key"⟩]

/-- Asked for twice, a table comes once, and like this even if nothing else is in the dump. -/
theorem loadTables_agree_rooms :
    (loadTables Workspace.host taggedDump "chat" [] { tree := .standard "/work" }).1 =
        .ok [keyTable "users" ["id", "day"], keyTable "rooms" ["id"]] ∧
      ["rooms", "rooms"] ≠ [] ∧
      (loadTables Workspace.host taggedDump "chat" ["rooms", "rooms"]
        { tree := .standard "/work" }).1 = .ok [keyTable "rooms" ["id"]] ∧
      [⟨some "chat", keyRow "rooms" "id" "partition_key"⟩].filter
          (Fixture.concerns "chat" ["rooms", "rooms"]) =
        taggedDump.entries.filter (Fixture.concerns "chat" ["rooms", "rooms"]) ∧
      loadTables Workspace.host ⟨[⟨some "chat", keyRow "rooms" "id" "partition_key"⟩]⟩ "chat"
          ["rooms", "rooms"] { tree := .standard "/work" } =
        loadTables Workspace.host taggedDump "chat" ["rooms", "rooms"]
          { tree := .standard "/work" } := by
  have hall : (loadTables Workspace.host taggedDump "chat" [] { tree := .standard "/work" }).1 =
      .ok [keyTable "users" ["id", "day"], keyTable "rooms" ["id"]] := rfl
  have hsame : [⟨some "chat", keyRow "rooms" "id" "partition_key"⟩].filter
        (Fixture.concerns "chat" ["rooms", "rooms"]) =
      taggedDump.entries.filter (Fixture.concerns "chat" ["rooms", "rooms"]) := by decide
  obtain ⟨-, hchosen, hcongr, -⟩ :=
    loadTables_agree taggedDump "chat" ["rooms", "rooms"] { tree := .standard "/work" }
  exact ⟨hall, by decide, hchosen _ hall (by decide), hsame, hcongr ⟨[_]⟩ hsame⟩

end Command

end WideColumn
