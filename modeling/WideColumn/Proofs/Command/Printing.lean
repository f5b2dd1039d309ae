import WideColumn.Command.Inspect
import WideColumn.Proofs.Command.Accounting
import WideColumn.Proofs.Sink.Console

/-!
# Runs on a printer that fills up

Generating goes on when the printer has no more room: the report counts the models that came out
whole, and every later one is among its failures. Inspecting stops at the first statement that does
not come out whole. Either way the beginning of all output is printed, as far as there is room.

Main definitions: `Command.PrintsModels`, `Command.PrintsStatements`.
Main result: `Command.prints_up_to_room`.
-/

namespace WideColumn

open Console

variable {highlight colors : Bool}

/-! ## Files in a row -/

namespace Sink

variable {σ : Type} {sink : Sink (StateM σ)} {file : GeneratedFile} {rest : List GeneratedFile}
  {s s' : σ}

theorem emit_recorded {answer : Except SinkError Outcome} (h : sink.emit file s = (answer, s'))
    (calls : List Call) :
    sink.recorded.emit file (s, calls) = (answer, s', calls ++ [⟨file, answer⟩]) := by
  unfold recorded
  dsimp only
  rw [h]

theorem emitAll_taken {outcome : Outcome} (h : sink.emit file s = (.ok outcome, s')) :
    sink.emitAll (file :: rest) s = sink.emitAll rest s' := by
  rw [emitAll, bind_apply, h]

theorem emitAll_refused {e : SinkError} (h : sink.emit file s = (.error e, s')) :
    sink.emitAll (file :: rest) s = (.error e, s') := by
  rw [emitAll, bind_apply, h]
  rfl

theorem emitAll_recorded (sink : Sink (StateM σ)) (files : List GeneratedFile) :
    Erases (sink.recorded.emitAll files) (sink.emitAll files) := by
  induction files with
  | nil => exact .pure _
  | cons file rest ih =>
    unfold emitAll
    refine (Erases.recorded sink file).bind fun answer => ?_
    cases answer with
    | ok outcome => exact ih
    | error e => exact .pure _

end Sink

namespace Console

/-- The answer to files in a row, given the first that the console does not take. -/
def answer : Option GeneratedFile → Except SinkError Unit
  | none => .ok ()
  | some file => .error (.print file.path Workspace.printerFull)

/-- Files behind others that the console took whole are handed to it up to the first that it does
not take. -/
theorem Prints.emitAll {room : Nat} {before : Workspace} (rest : List GeneratedFile) :
    ∀ {done : List GeneratedFile} {w : Workspace} {calls : List Call},
      Prints highlight colors done room done.length before w →
      ∃ more after calls',
        (sink highlight colors).recorded.emitAll rest (w, calls) =
          (answer rest[more]?, after, calls ++ calls') ∧
        Prints highlight colors (done ++ rest) room (done.length + more) before after ∧
        calls'.map (·.file) = rest.take (more + 1) := by
  induction rest with
  | nil =>
    intro done w calls h
    refine ⟨0, w, [], ?_, ?_, rfl⟩
    · rw [List.append_nil]
      rfl
    · rwa [List.append_nil]
  | cons file rest ih =>
    intro done w calls h
    rw [List.append_cons]
    rcases h.emit file with ⟨w', emitted, -, prints⟩ | ⟨w', emitted, beyond, prints⟩
    · have length : (done ++ [file]).length = done.length + 1 := List.length_append
      obtain ⟨more, after, calls', run, prints, handed⟩ := ih (length ▸ prints)
      refine ⟨more + 1, after, ⟨file, .ok .printed⟩ :: calls', ?_, ?_, ?_⟩
      · rw [Sink.emitAll_taken (Sink.emit_recorded emitted calls), run, ← List.append_cons]
        rfl
      · rwa [length, Nat.add_assoc, Nat.add_comm 1] at prints
      · rw [List.map_cons, handed, List.take_succ_cons]
    · refine ⟨0, w', [_], Sink.emitAll_refused (Sink.emit_recorded emitted calls), ?_, rfl⟩
      exact prints.append beyond

end Console

namespace Command

/-! ## Models -/

/-- Why the model of a table did not come through, given the tables before it and how many models
the printer took: an earlier table has its path, or the printer was full. -/
def printFailure? (printed : Nat) (earlier : List Table) (table : Table) :
    Option (String × EmitError) :=
  match table.rival? earlier with
  | some first => some (table.name, .duplicatePath table.file.path first.name)
  | none =>
    if (Tables.firsts earlier).length < printed then none
    else some (table.name, .sink (.print table.file.path Workspace.printerFull))

/-- When all models so far came through, one more that does changes nothing about them. -/
theorem printFailure?_succ {tables earlier : List Table} {table : Table}
    (h : (earlier, table) ∈ Tables.withEarlier tables) :
    printFailure? (Tables.firsts tables).length earlier table =
      printFailure? ((Tables.firsts tables).length + 1) earlier table := by
  unfold printFailure?
  cases rival : table.rival? earlier with
  | some first => rfl
  | none =>
    have few := Tables.length_firsts_lt h rival
    dsimp only
    rw [if_pos few, if_pos (Nat.lt_succ_of_lt few)]

theorem files_concat_free {tables : List Table} {table : Table}
    (free : table.rival? tables = none) :
    (Tables.firsts (tables ++ [table])).map Table.file =
      (Tables.firsts tables).map Table.file ++ [table.file] := by
  rw [Tables.firsts_concat_free free, List.map_append, List.map_singleton]

/-- The printer was handed the models of the tables that have their path first. -/
structure PrintsModels (highlight colors : Bool) (room : Nat) (before : Workspace)
    (tables : List Table) (report : Report) (after : Workspace) : Prop where
  prints : Prints highlight colors ((Tables.firsts tables).map Table.file) room report.printed
    before after
  failed : report.failed = (Tables.withEarlier tables).filterMap fun (earlier, table) =>
    printFailure? report.printed earlier table
  written : report.written = []
  skipped : report.skipped = []

namespace PrintsModels

variable {room : Nat} {before after : Workspace} {done : List Table} {report : Report}
  {table : Table}

theorem duplicate {first : Table}
    (h : PrintsModels highlight colors room before done report after)
    (rival : table.rival? done = some first) :
    PrintsModels highlight colors room before (done ++ [table])
      (report.fail table.name (.duplicatePath table.file.path first.name)) after where
  prints := by
    rw [Tables.firsts_concat_claimed rival]
    exact h.prints
  failed := by
    simp [Report.fail, Tables.withEarlier_concat, h.failed, printFailure?, rival]
  written := h.written
  skipped := h.skipped

theorem take (h : PrintsModels highlight colors room before done report after)
    (free : table.rival? done = none) {w : Workspace}
    (all : report.printed = ((Tables.firsts done).map Table.file).length)
    (prints : Prints highlight colors ((Tables.firsts done).map Table.file ++ [table.file]) room
      (report.printed + 1) before w) :
    PrintsModels highlight colors room before (done ++ [table]) (report.add .printed) w where
  prints := by
    rw [files_concat_free free]
    exact prints
  failed := by
    rw [List.length_map] at all
    have last : printFailure? (report.printed + 1) done table = none := by
      rw [printFailure?, free, all]
      exact if_pos (Nat.lt_succ_self _)
    have same := List.filterMap_congr (l := Tables.withEarlier done)
      fun _ hentry => printFailure?_succ hentry
    rw [← all] at same
    simp [Report.add, Tables.withEarlier_concat, h.failed, same, last]
  written := h.written
  skipped := h.skipped

theorem refuse (h : PrintsModels highlight colors room before done report after)
    (free : table.rival? done = none) {w : Workspace}
    (prints : Prints highlight colors ((Tables.firsts done).map Table.file ++ [table.file]) room
      report.printed before w) :
    PrintsModels highlight colors room before (done ++ [table])
      (report.fail table.name (.sink (.print table.file.path Workspace.printerFull))) w where
  prints := by
    rw [files_concat_free free]
    exact prints
  failed := by
    have le := h.prints.takes.le
    rw [List.length_map, List.length_map] at le
    have last : printFailure? report.printed done table =
        some (table.name, .sink (.print table.file.path Workspace.printerFull)) := by
      rw [printFailure?, free]
      exact if_neg (by omega)
    simp [Report.fail, Tables.withEarlier_concat, h.failed, last]
  written := h.written
  skipped := h.skipped

end PrintsModels

theorem preserved_printsModels (room : Nat) (before : Workspace) :
    Preserved Workspace.host (sink highlight colors)
      (PrintsModels highlight colors room before) where
  log _ h := { h with prints := h.prints.shown _ }
  note _ h := { h with prints := h.prints.shown _ }
  duplicate h rival := h.duplicate rival
  taken {done report w w' table outcome} h free emitted := by
    rcases h.prints.emit table.file with ⟨w₁, taken, all, prints⟩ | ⟨w₁, refused, -, -⟩
    · rw [emitted] at taken
      obtain ⟨hanswer, rfl⟩ := Prod.mk.inj taken
      obtain rfl := Except.ok.inj hanswer
      exact h.take free all prints
    · rw [emitted] at refused
      cases refused
  refused {done report w w' table cause} h free emitted := by
    rcases h.prints.emit table.file with ⟨w₁, taken, -, -⟩ | ⟨w₁, refused, -, prints⟩
    · rw [emitted] at taken
      cases taken
    · rw [emitted] at refused
      obtain ⟨hanswer, rfl⟩ := Prod.mk.inj refused
      obtain rfl := Except.error.inj hanswer
      exact h.refuse free prints

/-! ## Statements -/

/-- The printer was handed the statements in a row up to the first that it did not take whole. -/
structure PrintsStatements (highlight colors : Bool) (room : Nat) (before : Workspace)
    (files : List GeneratedFile) (answer : Except RunError Nat) (calls : List Call)
    (after : Workspace) : Prop where
  complete : answer = .ok files.length ↔
    (files.map (bytes highlight colors)).flatten.length ≤ room
  stops : ∃ count, Prints highlight colors files room count before after ∧
    calls.map (·.file) = files.take (count + 1) ∧
    ∀ file ∈ files[count]?, answer = .error (.sink (.print file.path Workspace.printerFull))

variable {σ : Type} {fixture : Fixture} {keyspace : String} {requested : List String}
  {tables : List Table}

theorem inspect_recorded (host : Host (StateM σ)) (sink : Sink (StateM σ)) (fixture : Fixture)
    (keyspace : String) (requested : List String) :
    Erases (inspect (host.map beside) sink.recorded fixture keyspace requested)
      (inspect host sink fixture keyspace requested) := by
  refine (loadTables_recorded host fixture keyspace requested).bind fun loaded => ?_
  cases loaded with
  | error e => exact .pure _
  | ok tables =>
    refine (Sink.emitAll_recorded sink _).bind fun emitted => ?_
    cases emitted with
    | error e => exact .pure _
    | ok _ => exact .pure _

/-- The answer to so many statements in a row, given what the sink answered to them. -/
def inspected (number : Nat) : Except SinkError Unit → Except RunError Nat
  | .ok () => .ok number
  | .error e => .error (.sink e)

theorem inspect_ok (host : Host (StateM σ)) (sink : Sink (StateM σ))
    (h : fixture.tables keyspace requested = .ok tables) (s : σ) :
    ∃ s₀, loadTables host fixture keyspace requested s = (.ok tables, s₀) ∧
      ∀ {answer s'}, sink.emitAll (tables.map (Cql.tableFile keyspace)) s₀ = (answer, s') →
        inspect host sink fixture keyspace requested s = (inspected tables.length answer, s') := by
  obtain ⟨s₀, loaded, -⟩ := generate_ok host sink h s
  refine ⟨s₀, loaded, fun {answer s'} emitted => ?_⟩
  unfold inspect
  rw [bind_apply, loaded]
  dsimp only
  rw [bind_apply, emitted]
  cases answer with
  | ok _ => rfl
  | error _ => rfl

theorem printsStatements_of_prints {files : List GeneratedFile} {room count : Nat}
    {before after : Workspace} {calls : List Call}
    (h : Prints highlight colors files room count before after)
    (handed : calls.map (·.file) = files.take (count + 1)) :
    PrintsStatements highlight colors room before files
      (inspected files.length (answer files[count]?)) calls after where
  complete := by
    rw [← h.takes.eq_length_iff, List.length_map]
    cases hfile : files[count]? with
    | none =>
      have le := h.takes.le
      rw [List.length_map] at le
      have all : count = files.length := Nat.le_antisymm le (List.getElem?_eq_none_iff.mp hfile)
      exact iff_of_true rfl all
    | some file =>
      obtain ⟨inside, -⟩ := List.getElem?_eq_some_iff.mp hfile
      exact iff_of_false (fun ok => by cases ok) (Nat.ne_of_lt inside)
  stops := by
    refine ⟨count, h, handed, fun file hfile => ?_⟩
    rw [Option.mem_def.mp hfile]
    rfl

theorem inspect_printsStatements (loaded : fixture.tables keyspace requested = .ok tables)
    {w : Workspace} {room : Nat} (hroom : w.room = some room) :
    ∃ answer calls after,
      inspect (Workspace.host.map beside) (sink highlight colors).recorded fixture keyspace
        requested (w, []) = (answer, after, calls) ∧
      inspect Workspace.host (sink highlight colors) fixture keyspace requested w =
        (answer, after) ∧
      PrintsStatements highlight colors room w (tables.map (Cql.tableFile keyspace)) answer calls
        after := by
  obtain ⟨⟨w₀, calls₀⟩, read, run⟩ := inspect_ok (Workspace.host.map beside)
    (sink highlight colors).recorded loaded (w, [])
  obtain ⟨quiet, silent⟩ : Prints highlight colors [] room 0 w w₀ ∧ calls₀ = [] := by
    have := loadTables_preserves (Workspace.host.map beside)
      (P := fun s => Prints highlight colors [] room 0 w s.1 ∧ s.2 = [])
      (fun _ _ h => ⟨h.1.shown _, h.2⟩) fixture keyspace requested (s := (w, []))
      ⟨.nil hroom, rfl⟩
    rwa [read] at this
  subst silent
  obtain ⟨count, after, calls, emitted, prints, handed⟩ :=
    quiet.emitAll (tables.map (Cql.tableFile keyspace))
  have watched := run emitted
  rw [List.nil_append] at watched prints
  rw [List.length_nil, Nat.zero_add] at prints
  have number : (tables.map (Cql.tableFile keyspace)).length = tables.length := List.length_map _
  rw [← number] at watched
  obtain ⟨sameAnswer, sameState⟩ := inspect_recorded Workspace.host (sink highlight colors)
    fixture keyspace requested w []
  rw [watched] at sameAnswer sameState
  exact ⟨_, calls, after, watched, Prod.ext sameAnswer.symm sameState.symm,
    printsStatements_of_prints prints handed⟩

/-! ## Both runs -/

theorem generate_printsModels (loaded : fixture.tables keyspace requested = .ok tables)
    {w : Workspace} {room : Nat} (hroom : w.room = some room) :
    ∃ report after,
      generate Workspace.host (sink highlight colors) fixture keyspace requested w =
        (.ok report, after) ∧
      PrintsModels highlight colors room w tables report after := by
  obtain ⟨w₀, read, run⟩ := generate_ok Workspace.host (sink highlight colors) loaded w
  have quiet : Prints highlight colors [] room 0 w w₀ := by
    have := loadTables_preserves Workspace.host (P := Prints highlight colors [] room 0 w)
      (fun _ _ h => h.shown _) fixture keyspace requested (.nil hroom)
    rwa [read] at this
  exact ⟨_, _, run, (preserved_printsModels room w).generateModels tables
    { prints := quiet, failed := rfl, written := rfl, skipped := rfl }⟩

/-- Whatever room the printer has, as much of the beginning of all output is printed as fits into
it. A run that generates reports every model that did not come out whole, and a run that inspects
ends at the first statement that did not. -/
theorem prints_up_to_room (loaded : fixture.tables keyspace requested = .ok tables)
    (highlight colors : Bool) {w : Workspace} {room : Nat} (hroom : w.room = some room) :
    (∃ report after,
      generate Workspace.host (sink highlight colors) fixture keyspace requested w =
        (.ok report, after) ∧
      PrintsModels highlight colors room w tables report after) ∧
    ∃ answer calls after,
      inspect (Workspace.host.map beside) (sink highlight colors).recorded fixture keyspace
        requested (w, []) = (answer, after, calls) ∧
      inspect Workspace.host (sink highlight colors) fixture keyspace requested w =
        (answer, after) ∧
      PrintsStatements highlight colors room w (tables.map (Cql.tableFile keyspace)) answer calls
        after :=
  ⟨generate_printsModels loaded hroom, inspect_printsStatements loaded hroom⟩

/-- A workspace whose printer takes forty bytes. -/
def narrow : Workspace := { tree := .standard "/work", room := some 40 }

/-- Two tables of one path, on a printer with room for the beginning of one. -/
theorem prints_up_to_room_users :
    (Fixture.ofRows [singleRow "users", singleRow "user"]).tables "chat" [] =
        .ok [single "users", single "user"] ∧ narrow.room = some 40 ∧
      (∃ report after,
        generate Workspace.host (sink true false)
            (Fixture.ofRows [singleRow "users", singleRow "user"]) "chat" [] narrow =
          (.ok report, after) ∧
        PrintsModels true false 40 narrow [single "users", single "user"] report after) ∧
      ∃ answer calls after,
        inspect (Workspace.host.map beside) (sink true false).recorded
            (Fixture.ofRows [singleRow "users", singleRow "user"]) "chat" [] (narrow, []) =
          (answer, after, calls) ∧
        inspect Workspace.host (sink true false)
            (Fixture.ofRows [singleRow "users", singleRow "user"]) "chat" [] narrow =
          (answer, after) ∧
        PrintsStatements true false 40 narrow
          ([single "users", single "user"].map (Cql.tableFile "chat")) answer calls after :=
  have loaded : (Fixture.ofRows [singleRow "users", singleRow "user"]).tables "chat" [] =
      .ok [single "users", single "user"] := rfl
  have hroom : narrow.room = some 40 := rfl
  ⟨loaded, hroom, prints_up_to_room loaded true false hroom⟩

end Command

end WideColumn
