import WideColumn.Command.Error
import WideColumn.SupportFile

/-!
# Setting up a models directory

The support files go to a sink one by one. The first that the sink does not take ends the run.

Main definitions: `Command.init`.
-/

namespace WideColumn.Command

variable {m : Type → Type} [Monad m]

/-- Tells the user what became of a support file. -/
def noteSupport (host : Host m) : Outcome → m Unit
  | .printed => pure ()
  | .written path => host.note ⟨.boldGreen, "created", path⟩
  | .skipped path => host.note ⟨.boldYellow, "kept", path⟩

/-- Hands support files to a sink, and tells what became of each. -/
def emitSupport (host : Host m) (sink : Sink m) :
    List GeneratedFile → m (Except RunError (List Outcome))
  | [] => pure (.ok [])
  | file :: rest => do
    match ← sink.emit file with
    | .error e => return .error (.sink e)
    | .ok outcome =>
      noteSupport host outcome
      return (← emitSupport host sink rest).map (outcome :: ·)

/-- Hands the support files to a sink, and tells what became of each. -/
def init (host : Host m) (sink : Sink m) : m (Except RunError (List Outcome)) :=
  emitSupport host sink SupportFile.all

end WideColumn.Command
