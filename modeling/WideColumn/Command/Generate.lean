import WideColumn.Command.Load
import WideColumn.Model.Basic
import WideColumn.Sink

/-!
# Generating models

One model is made for each table and handed to a sink. A table whose model does not come through
only loses its own model: the others still go out, and the report says what became of each. The path
of a model belongs to the first table that has it, whether its model came through or not; a later
table of the same path fails without being handed to the sink.

Main definitions: `EmitError`, `Report`, `Command.generateModels`, `Command.generate`.
-/

namespace WideColumn

/-- Why the model of a table did not come through. -/
inductive EmitError where
  | sink (cause : SinkError)
  /-- An earlier table has the same path. -/
  | duplicatePath (path first : String)
  deriving DecidableEq

/-- The error in words. -/
def EmitError.message : EmitError → String
  | sink cause => cause.message
  | duplicatePath path first => path ++ " was already generated from table " ++ first

/-- What became of the models of a run, in the order of their tables. -/
structure Report where
  /-- The paths that were written. -/
  written : List String := []
  /-- The paths that were kept. -/
  skipped : List String := []
  /-- How many models were printed. -/
  printed : Nat := 0
  /-- The tables whose models did not come through. -/
  failed : List (String × EmitError) := []
  deriving DecidableEq

namespace Report

/-- The report with one more model that the sink took. -/
def add (report : Report) : Outcome → Report
  | .printed => { report with printed := report.printed + 1 }
  | .written path => { report with written := report.written ++ [path] }
  | .skipped path => { report with skipped := report.skipped ++ [path] }

/-- The report with one more table that failed. -/
def fail (report : Report) (table : String) (e : EmitError) : Report :=
  { report with failed := report.failed ++ [(table, e)] }

end Report

namespace Command

variable {m : Type → Type} [Monad m]

/-- The path that a model has and the table that had it first, for every path so far. -/
abbrev Claims := List (String × String)

/-- Tells the user what became of a model. -/
def noteOutcome (host : Host m) : Outcome → m Unit
  | .printed => pure ()
  | .written path => host.note ⟨.boldGreen, "wrote", path⟩
  | .skipped path => host.note ⟨.boldYellow, "skipped", path⟩

/-- Logs that the model of a table did not come through. -/
def logFailure (host : Host m) (table : String) (e : EmitError) : m Unit :=
  host.log
    { level := .error
      area := .generation
      message := e.message
      fields := [.plain "table" table] }

/-- Logs the size of a key model. -/
def logKeys (host : Host m) (table : String) (keys : KeyModel) : m Unit :=
  host.log
    { level := .debug
      area := .generation
      message := "derived key model"
      fields := [.plain "table" table, .count "partition_keys" keys.partitionKeys.length,
        .count "prefixes" keys.clusteringPrefixes.length] }

/-- Makes the models of tables and hands them to a sink, given the paths that are claimed and the
report so far. -/
def generateFrom (host : Host m) (sink : Sink m) : Claims → Report → List Table → m Report
  | _, report, [] => pure report
  | claims, report, table :: rest => do
    let keys := KeyModel.ofTable table
    logKeys host table.name keys
    let file := (Model.render table keys).toFile
    match claims.lookup file.path with
    | some first =>
      let e := EmitError.duplicatePath file.path first
      logFailure host table.name e
      generateFrom host sink claims (report.fail table.name e) rest
    | none =>
      let claims := (file.path, table.name) :: claims
      match ← sink.emit file with
      | .ok outcome =>
        noteOutcome host outcome
        generateFrom host sink claims (report.add outcome) rest
      | .error cause =>
        logFailure host table.name (.sink cause)
        generateFrom host sink claims (report.fail table.name (.sink cause)) rest

/-- Makes the models of tables and hands them to a sink. -/
def generateModels (host : Host m) (sink : Sink m) (tables : List Table) : m Report :=
  generateFrom host sink [] {} tables

/-- Makes the models of the tables that are asked for and hands them to a sink. -/
def generate (host : Host m) (sink : Sink m) (fixture : Fixture) (keyspace : String)
    (requested : List String) : m (Except SchemaError Report) := do
  match ← loadTables host fixture keyspace requested with
  | .error e => return .error e
  | .ok tables => return .ok (← generateModels host sink tables)

end Command

end WideColumn
