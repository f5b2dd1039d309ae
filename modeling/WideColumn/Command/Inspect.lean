import WideColumn.Command.Error
import WideColumn.Command.Load
import WideColumn.Cql.CreateTable

/-!
# Inspecting tables

The statements that declare tables go to a sink one by one. The first that the sink does not take
ends the run.

Main definitions: `Sink.emitAll`, `Command.inspect`.
-/

namespace WideColumn

variable {m : Type → Type} [Monad m]

/-- Hands files to a sink up to the first that it does not take. -/
def Sink.emitAll (sink : Sink m) : List GeneratedFile → m (Except SinkError Unit)
  | [] => pure (.ok ())
  | file :: rest => do
    match ← sink.emit file with
    | .ok _ => sink.emitAll rest
    | .error e => return .error e

/-- Hands the statements of the tables that are asked for to a sink, and tells how many there are.
-/
def Command.inspect (host : Host m) (sink : Sink m) (fixture : Fixture) (keyspace : String)
    (requested : List String) : m (Except RunError Nat) := do
  match ← Command.loadTables host fixture keyspace requested with
  | .error e => return .error (.schema e)
  | .ok tables =>
    match ← sink.emitAll (tables.map (Cql.tableFile keyspace)) with
    | .error e => return .error (.sink e)
    | .ok () => return .ok tables.length

end WideColumn
