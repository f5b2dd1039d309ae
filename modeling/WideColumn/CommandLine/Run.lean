import WideColumn.Command.Finish
import WideColumn.Command.Init
import WideColumn.Command.Inspect
import WideColumn.Command.Source
import WideColumn.CommandLine.Invocation

/-!
# Running the program

The config file is read before anything else, then the settings are resolved, then the catalog is
opened, and only then the command begins. What goes wrong is shown as one line at the end, and the
exit status tells it too.

Main definitions: `CommandLine.run`, `CommandLine.execute`.
-/

namespace WideColumn.CommandLine

variable {m : Type → Type} [Monad m]

/-- What the program shows its output on. -/
structure Terminal where
  /-- The output goes to a terminal and not to a file. -/
  isTerminal : Bool
  colors : Bool
  deriving DecidableEq

/-- Goes on with a result, or stops with an error of the run. -/
def orStop {ε α : Type} (wrap : ε → RunError) (action : m (Except ε α)) : ExceptT RunError m α :=
  ExceptT.mk ((·.mapError wrap) <$> action)

/-- What to do about files that exist already. -/
def policy (overwrite : Bool) : OverwritePolicy := if overwrite then .always else .ask

/-- The sink that prints. -/
def printer (host : Host m) (terminal : Terminal) : Sink m :=
  Sink.console host terminal.isTerminal terminal.colors

/-- Tells how a run that generated models went. -/
def conclude (host : Host m) (print : Bool) (report : Report) : m Unit :=
  let count (n : Nat) : String := String.ofList (Text.ofNat n)
  if print then
    host.log
      { level := .debug
        area := .program
        message := "printed models"
        fields := [.count "printed" report.printed] }
  else
    host.note ⟨.boldGreen, "done:", count report.written.length ++ " written, " ++
      count report.skipped.length ++ " skipped"⟩

/-- Runs an invocation. -/
def run (host : Host m) (terminal : Terminal) (invocation : Invocation) :
    ExceptT RunError m Unit := do
  let file ← orStop .settings (ConfigFile.discover host invocation.config)
  let resolve (outDir : Option String) : ExceptT RunError m Settings :=
    orStop .settings (pure (Settings.resolve invocation.connection file outDir))
  match invocation.subcommand with
  | .generate tables print overwrite format outDir =>
    let settings ← resolve outDir
    host.log
      { level := .debug
        area := .program
        message := "resolved settings"
        fields := [.plain "keyspace" settings.keyspace, .plain "out_dir" settings.outDir] }
    let catalog ← orStop id (Command.openCatalog host settings invocation.fixture)
    let sink :=
      if print then printer host terminal
      else Sink.files host settings.outDir (policy overwrite)
    let report ← orStop .schema (Command.generate host sink catalog settings.keyspace tables)
    let formatter := if format then some settings.formatter else none
    let report ← orStop id (Command.finish host report formatter)
    (conclude host print report : m Unit)
  | .inspect tables =>
    let settings ← resolve none
    let catalog ← orStop id (Command.openCatalog host settings invocation.fixture)
    let sink := printer host terminal
    let _ ← orStop id (Command.inspect host sink catalog settings.keyspace tables)
  | .init overwrite outDir =>
    let dir := (outDir <|> file.outDir).getD Settings.defaultOutDir
    let _ ← orStop id (Command.init host (Sink.files host dir (policy overwrite)))

/-- The name and the version of the program. -/
def versionText : String := "scylla-gen 0.1.0\n"

/-- How the program is called. -/
def usageText : String := String.join
  ["Usage: scylla-gen [OPTIONS] <COMMAND>\n\n",
    "Commands:\n",
    "  generate  Generate one model per table (all tables when none are named)\n",
    "  inspect   Print CREATE TABLE statements\n",
    "  init      Write db-client.ts and clustering-order.ts into the models directory\n"]

/-- Shows an error as the last line of a run. -/
def noteError (host : Host m) (text : String) : m Unit := host.note ⟨.boldRed, "error:", text⟩

/-- Does what a command line asks for, and tells the exit status: zero for success, one for a run
that failed, two for a command line that is not understood. -/
def execute (host : Host m) (terminal : Terminal) (request : Except UsageError Request) :
    m Nat := do
  match request with
  | .error e =>
    noteError host e.message
    return 2
  | .ok .version =>
    let _ ← host.print versionText
    return 0
  | .ok .help =>
    let _ ← host.print usageText
    return 0
  | .ok (.run invocation) =>
    match ← (run host terminal invocation).run with
    | .ok () => return 0
    | .error e =>
      noteError host e.chain
      return 1

end WideColumn.CommandLine
