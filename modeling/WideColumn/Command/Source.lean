import WideColumn.Command.Error

/-!
# Opening a catalog

Main definitions: `Command.openCatalog`.
-/

namespace WideColumn.Command

variable {m : Type → Type} [Monad m]

/-- Opens the fixture at a path, or else connects to the cluster of the settings. -/
def openCatalog (host : Host m) (settings : Settings) (fixture : Option String) :
    m (Except RunError Fixture) := do
  match fixture with
  | some path =>
    host.log
      { level := .info
        area := .commands
        message := "reading catalog fixture"
        fields := [.plain "path" path] }
    return (← Fixture.load host path).mapError .catalog
  | none =>
    match settings.connectOptions with
    | .error e => return .error (.settings e)
    | .ok options => return (← Catalog.connect host options).mapError .connection

end WideColumn.Command
