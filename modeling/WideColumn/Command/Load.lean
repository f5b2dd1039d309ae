import WideColumn.Catalog.Fixture
import WideColumn.Host
import WideColumn.Schema.Diagnostic

/-!
# Loading tables

Every command begins with the tables of a keyspace: those that are asked for, or all when none are.
An empty keyspace is an error, and so is a table that is asked for and not there. What is odd about
a table is logged as a warning and does not stop the run.

Main definitions: `Fixture.tables`, `Command.loadTables`.
-/

namespace WideColumn

/-- The tables of a keyspace that are asked for, or all when none are. -/
def Fixture.tables (fixture : Fixture) (keyspace : String) (requested : List String) :
    Except SchemaError (List Table) :=
  let rows := fixture.fetch keyspace requested
  if rows.isEmpty && requested.isEmpty then .error (.emptyKeyspace keyspace)
  else Tables.ofRows rows requested

namespace Command

variable {m : Type → Type} [Monad m]

/-- Logs what is odd about tables. -/
def warn (host : Host m) (tables : List Table) : m Unit :=
  tables.forM fun table => table.diagnostics.forM fun diagnostic =>
    host.log { level := .warn, area := .commands, message := diagnostic.message }

/-- The tables of a keyspace, with warnings for what is odd about them. -/
def loadTables (host : Host m) (fixture : Fixture) (keyspace : String) (requested : List String) :
    m (Except SchemaError (List Table)) := do
  match fixture.tables keyspace requested with
  | .error e => return .error e
  | .ok tables =>
    warn host tables
    host.log
      { level := .info
        area := .commands
        message := "loaded table schemas"
        fields := [.quoted "keyspace" keyspace, .count "tables" tables.length] }
    return .ok tables

end Command

end WideColumn
