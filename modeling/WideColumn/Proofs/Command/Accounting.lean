import Mathlib.Data.List.Basic
import WideColumn.Command.Finish
import WideColumn.Proofs.Command.Recording
import WideColumn.Workspace

/-!
# What a report accounts for

Whatever a sink does, `generate` hands it the files of the tables that have their path first, each
once and in order, and the report accounts for every table: `Accounts` says how the lists of the
report come out of the calls. `Formats` says what becomes of a report that is finished.
-/

namespace WideColumn

variable {σ : Type}

/-! ## Accounts -/

/-- Why the model of a table did not come through: an earlier table has its path, or the sink
refused its file. -/
def failure? (calls : List Call) (earlier : List Table) (table : Table) : Option EmitError :=
  match table.rival? earlier with
  | some first => some (.duplicatePath table.file.path first.name)
  | none =>
    ((calls.find? (·.file.path = table.file.path)).bind Call.refusal?).map .sink

/-- The report says of every table what became of it in some calls. -/
structure Accounts (tables : List Table) (calls : List Call) (report : Report) : Prop where
  /-- The sink was handed the file of each table that has its path first, in order. -/
  files : calls.map (·.file) = (Tables.firsts tables).map Table.file
  /-- No path was handed over twice. -/
  distinct : (calls.map (·.file.path)).Nodup
  written : report.written = calls.filterMap Call.written?
  skipped : report.skipped = calls.filterMap Call.skipped?
  printed : report.printed = calls.countP Call.isPrinted
  /-- The tables that failed, in order, each with its reason. -/
  failed : report.failed = (Tables.withEarlier tables).filterMap fun (earlier, table) =>
    (failure? calls earlier table).map (table.name, ·)
  /-- Every table is counted once. -/
  total : report.written.length + report.skipped.length + report.printed + report.failed.length =
    tables.length

/-- The report with the answer of the sink to the file of a table. -/
def Report.answered (report : Report) (table : Table) : Except SinkError Outcome → Report
  | .ok outcome => report.add outcome
  | .error cause => report.fail table.name (.sink cause)

section Answered

variable (report : Report) (table : Table) (answer : Except SinkError Outcome)

theorem Report.answered_written : (report.answered table answer).written =
    report.written ++ [Call.mk table.file answer].filterMap Call.written? := by
  rcases answer with _ | _ | _ | _ <;> simp [answered, add, fail, Call.written?]

theorem Report.answered_skipped : (report.answered table answer).skipped =
    report.skipped ++ [Call.mk table.file answer].filterMap Call.skipped? := by
  rcases answer with _ | _ | _ | _ <;> simp [answered, add, fail, Call.skipped?]

theorem Report.answered_printed : (report.answered table answer).printed =
    report.printed + [Call.mk table.file answer].countP Call.isPrinted := by
  rcases answer with _ | _ | _ | _ <;> simp [answered, add, fail, Call.isPrinted]

theorem Report.answered_failed : (report.answered table answer).failed =
    report.failed ++
      (((Call.refusal? ⟨table.file, answer⟩).map EmitError.sink).map (table.name, ·)).toList := by
  rcases answer with _ | _ | _ | _ <;> simp [answered, add, fail, Call.refusal?]

/-- Whatever the answer is, it is counted once. -/
theorem Report.answered_total :
    (report.answered table answer).written.length + (report.answered table answer).skipped.length +
        (report.answered table answer).printed + (report.answered table answer).failed.length =
      report.written.length + report.skipped.length + report.printed + report.failed.length +
        1 := by
  rcases answer with _ | _ | _ | _ <;>
    simp only [answered, add, fail, List.length_append, List.length_singleton] <;> omega

end Answered

namespace Accounts

variable {done : List Table} {calls : List Call} {report : Report} {table : Table}

theorem nil : Accounts [] [] {} :=
  { files := rfl
    distinct := .nil
    written := rfl
    skipped := rfl
    printed := rfl
    failed := rfl
    total := rfl }

theorem duplicate {first : Table} (h : Accounts done calls report)
    (rival : table.rival? done = some first) :
    Accounts (done ++ [table]) calls
      (report.fail table.name (.duplicatePath table.file.path first.name)) :=
  { h with
    files := by rw [h.files, Tables.firsts_concat_claimed rival]
    failed := by simp [Report.fail, h.failed, Tables.withEarlier_concat, failure?, rival]
    total := by
      have := h.total
      simp only [Report.fail, List.length_append, List.length_singleton]
      omega }

/-- A path that no table had before was not handed over before. -/
theorem path_ne (h : Accounts done calls report) (free : table.rival? done = none) {call : Call}
    (hc : call ∈ calls) : call.file.path ≠ table.file.path := by
  have : call.file ∈ (Tables.firsts done).map Table.file :=
    h.files ▸ List.mem_map_of_mem hc
  obtain ⟨other, ho, he⟩ := List.mem_map.1 this
  rw [← he]
  exact Table.rival?_eq_none.1 free other (Tables.mem_of_mem_firsts ho)

/-- A call for another path does not change why a table failed. -/
theorem failure?_concat (calls : List Call) (call : Call) (earlier : List Table)
    (h : call.file.path ≠ table.file.path) :
    failure? (calls ++ [call]) earlier table = failure? calls earlier table := by
  simp [failure?, List.find?_append, h]

theorem failure?_last (h : Accounts done calls report) (free : table.rival? done = none)
    (answer : Except SinkError Outcome) :
    failure? (calls ++ [⟨table.file, answer⟩]) done table =
      (Call.refusal? ⟨table.file, answer⟩).map .sink := by
  have : calls.find? (·.file.path = table.file.path) = none := by
    simpa using fun call hc => h.path_ne free hc
  simp [failure?, free, List.find?_append, this]

theorem failed_concat (h : Accounts done calls report) (free : table.rival? done = none)
    (answer : Except SinkError Outcome) :
    ((Tables.withEarlier (done ++ [table])).filterMap fun (earlier, t) =>
        (failure? (calls ++ [⟨table.file, answer⟩]) earlier t).map (t.name, ·)) =
      report.failed ++
        (((Call.refusal? ⟨table.file, answer⟩).map EmitError.sink).map (table.name, ·)).toList := by
  rw [Tables.withEarlier_concat, List.filterMap_append, h.failed]
  congr 1
  · refine List.filterMap_congr fun (earlier, t) ht => ?_
    have ne := Table.rival?_eq_none.1 free t (Tables.mem_of_mem_withEarlier ht)
    dsimp only
    rw [failure?_concat calls ⟨table.file, answer⟩ earlier (Ne.symm ne)]
  · simp only [List.filterMap_cons, List.filterMap_nil, h.failure?_last free]
    generalize Call.refusal? ⟨table.file, answer⟩ = refusal
    cases refusal <;> rfl

theorem handed (h : Accounts done calls report) (free : table.rival? done = none)
    (answer : Except SinkError Outcome) :
    Accounts (done ++ [table]) (calls ++ [⟨table.file, answer⟩])
      (report.answered table answer) where
  files := by simp [h.files, Tables.firsts_concat_free free]
  distinct := by
    refine Tables.nodup_map_concat h.distinct fun hm => ?_
    obtain ⟨call, hc, e⟩ := List.mem_map.1 hm
    exact h.path_ne free hc e
  written := by rw [report.answered_written, List.filterMap_append, ← h.written]
  skipped := by rw [report.answered_skipped, List.filterMap_append, ← h.skipped]
  printed := by rw [report.answered_printed, List.countP_append, ← h.printed]
  failed := by rw [report.answered_failed, h.failed_concat free]
  total := by rw [report.answered_total, h.total, List.length_append, List.length_singleton]

end Accounts

/-! ## Finishing -/

/-- What the formatter of a command answers about the paths that were written, and the state after
it. A program is started with these paths behind its own arguments, and only if there are any. -/
inductive Formats (host : Host (StateM σ)) (written : List String) :
    Option String → σ → Except FormatError Unit → σ → Prop
  | unwanted {s : σ} : Formats host written none s (.ok ()) s
  | noProgram {command : String} {s : σ} :
      (Text.words command.toList).map String.ofList = [] →
      Formats host written (some command) s (.error .emptyCommand) s
  | nothingWritten {command program : String} {arguments : List String} {s : σ} :
      (Text.words command.toList).map String.ofList = program :: arguments → written = [] →
      Formats host written (some command) s (.ok ()) s
  | notStarted {command program : String} {arguments : List String} {cause : SystemError}
      {s s' : σ} :
      (Text.words command.toList).map String.ofList = program :: arguments → written ≠ [] →
      host.start program (arguments ++ written)
        (Formatter.logBegin host program written.length s).2 = (.error cause, s') →
      Formats host written (some command) s (.error (.notStarted program cause)) s'
  | failed {command program : String} {arguments : List String} {status : ExitStatus}
      {s s' : σ} :
      (Text.words command.toList).map String.ofList = program :: arguments → written ≠ [] →
      host.start program (arguments ++ written)
        (Formatter.logBegin host program written.length s).2 = (.ok status, s') →
      status.isSuccess = false →
      Formats host written (some command) s (.error (.failed program status)) s'
  | finished {command program : String} {arguments : List String} {status : ExitStatus}
      {s s' : σ} :
      (Text.words command.toList).map String.ofList = program :: arguments → written ≠ [] →
      host.start program (arguments ++ written)
        (Formatter.logBegin host program written.length s).2 = (.ok status, s') →
      status.isSuccess = true →
      Formats host written (some command) s (.ok ()) (Formatter.logEnd host program s').2

theorem format_formats (host : Host (StateM σ)) (command : String) (written : List String)
    (s : σ) :
    Formats host written (some command) s (Formatter.format host command written s).1
      (Formatter.format host command written s).2 := by
  unfold Formatter.format
  cases hw : (Text.words command.toList).map String.ofList with
  | nil => exact .noProgram hw
  | cons program arguments =>
    cases written with
    | nil => exact .nothingWritten hw rfl
    | cons path paths =>
      dsimp only
      rw [if_neg (by simp), bind_apply, bind_apply]
      cases hs : host.start program (arguments ++ path :: paths)
          (Formatter.logBegin host program (path :: paths).length s).2 with
      | mk answer s' =>
        rcases answer with cause | ⟨_ | _, words⟩
        · exact .notStarted hw (by simp) hs
        · exact .failed hw (by simp) hs rfl
        · exact .finished hw (by simp) hs rfl

/-- A run that is finished fails with the error of its formatter, else with the tables that failed,
and gives its report if there is neither. -/
structure Concludes (report : Report) (answer : Except FormatError Unit)
    (result : Except RunError Report) : Prop where
  notFormatted : ∀ e, answer = .error e → result = .error (.format e)
  complete : answer = .ok () → report.failed = [] → result = .ok report
  incomplete : answer = .ok () → report.failed ≠ [] → ∃ e, result = .error e ∧
    e.message =
      "could not write models for tables: " ++ ", ".intercalate (report.failed.map (·.1))

theorem result_concludes (report : Report) : Concludes report (.ok ()) report.result where
  notFormatted _ h := by cases h
  complete _ h := by simp [Report.result, h]
  incomplete _ h := ⟨.incomplete (report.failed.map (·.1)), by simp [Report.result, h], rfl⟩

theorem finish_concludes (host : Host (StateM σ)) (report : Report) (formatter : Option String)
    (s : σ) :
    ∃ answer, Formats host report.written formatter s answer
        (Command.finish host report formatter s).2 ∧
      Concludes report answer (Command.finish host report formatter s).1 := by
  cases formatter with
  | none => exact ⟨.ok (), .unwanted, result_concludes report⟩
  | some command =>
    have formats := format_formats host command report.written s
    unfold Command.finish
    dsimp only
    rw [bind_apply]
    cases h : Formatter.format host command report.written s with
    | mk answer s' =>
      rw [h] at formats
      refine ⟨answer, ?_⟩
      cases answer with
      | error e =>
        exact ⟨formats,
          { notFormatted := fun _ h => by cases h; rfl
            complete := fun h => by cases h
            incomplete := fun h => by cases h }⟩
      | ok _ => exact ⟨formats, result_concludes report⟩

/-! ## The whole run -/

theorem preserved_accounts (host : Host (StateM σ)) (sink : Sink (StateM σ)) :
    Command.Preserved (host.map beside) sink.recorded
      fun done report (s : σ × List Call) => Accounts done s.2 report where
  log _ h := h
  note _ h := h
  duplicate h rival := h.duplicate rival
  taken {done report s s' table outcome} h free emitted := by
    obtain ⟨answer, rfl⟩ := Prod.mk.inj emitted
    have handed := h.handed free (sink.emit table.file s.1).1
    rw [answer] at handed
    exact answer ▸ handed
  refused {done report s s' table cause} h free emitted := by
    obtain ⟨answer, rfl⟩ := Prod.mk.inj emitted
    have handed := h.handed free (sink.emit table.file s.1).1
    rw [answer] at handed
    exact answer ▸ handed

namespace Command

/-- No table of a run is lost, handed over twice or misreported, whatever the sink answers, and
finishing the run formats exactly what was written and fails exactly if a table failed. -/
theorem generate_accounts {fixture : Fixture} {keyspace : String} {requested : List String}
    {tables : List Table} (host : Host (StateM σ)) (sink : Sink (StateM σ)) (s : σ)
    (loaded : fixture.tables keyspace requested = .ok tables) :
    ∃ report calls s',
      generate (host.map beside) sink.recorded fixture keyspace requested (s, []) =
        (.ok report, s', calls) ∧
      generate host sink fixture keyspace requested s = (.ok report, s') ∧
      Accounts tables calls report ∧
      ∀ formatter t, ∃ answer,
        Formats host report.written formatter t answer (finish host report formatter t).2 ∧
        Concludes report answer (finish host report formatter t).1 := by
  obtain ⟨s₀, read, run⟩ := generate_ok (host.map beside) sink.recorded loaded (s, [])
  have silent : s₀.2 = [] := by
    have := loadTables_preserves (host.map beside) (P := fun s => s.2 = []) (fun _ _ h => h)
      fixture keyspace requested (s := (s, [])) rfl
    rwa [read] at this
  have accounts := (preserved_accounts host sink).generateModels tables (s := s₀)
    (silent ▸ Accounts.nil)
  obtain ⟨report', state'⟩ := generate_recorded host sink fixture keyspace requested s []
  rw [run] at report' state'
  refine ⟨_, _, _, run, ?_, accounts, finish_concludes host _⟩
  exact Prod.ext report'.symm state'.symm

/-- A table with one column. -/
def single (name : String) : Table :=
  { name
    columns :=
      [{ tableName := name
         name := "id"
         kind := .partitionKey
         position := 0
         rawType := "int"
         type := .parse "int"
         order := .parse none }] }

/-- The catalog row of a table with one column. -/
def singleRow (name : String) : Row := ⟨name, "id", none, "partition_key", 0, "int"⟩

/-- Two tables of one path, of which the first is written if nothing is in the way. -/
theorem generate_accounts_users :
    (Fixture.ofRows [singleRow "users", singleRow "user"]).tables "chat" [] =
        .ok [single "users", single "user"] ∧
      ∃ report calls w',
        generate (Workspace.host.map beside) (Sink.files Workspace.host "models" .ask).recorded
            (Fixture.ofRows [singleRow "users", singleRow "user"]) "chat" []
            ({ tree := .standard "/work" }, []) = (.ok report, w', calls) ∧
        generate Workspace.host (Sink.files Workspace.host "models" .ask)
            (Fixture.ofRows [singleRow "users", singleRow "user"]) "chat" []
            { tree := .standard "/work" } = (.ok report, w') ∧
        Accounts [single "users", single "user"] calls report ∧
        ∀ formatter t, ∃ answer,
          Formats Workspace.host report.written formatter t answer
            (finish Workspace.host report formatter t).2 ∧
          Concludes report answer (finish Workspace.host report formatter t).1 :=
  have loaded : (Fixture.ofRows [singleRow "users", singleRow "user"]).tables "chat" [] =
      .ok [single "users", single "user"] := rfl
  ⟨loaded, generate_accounts Workspace.host (Sink.files Workspace.host "models" .ask)
    { tree := .standard "/work" } loaded⟩

end Command

end WideColumn
