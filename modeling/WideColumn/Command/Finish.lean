import WideColumn.Command.Error
import WideColumn.Command.Generate

/-!
# Finishing a run

After the models went out, the ones that were written are formatted if a formatter is wanted. A
formatter that fails ends the run; otherwise the run fails if any model did not come through.

Main definitions: `Report.result`, `Command.finish`.
-/

namespace WideColumn

/-- The report, if every model came through. -/
def Report.result (report : Report) : Except RunError Report :=
  if report.failed.isEmpty then .ok report
  else .error (.incomplete (report.failed.map (·.1)))

namespace Command

variable {m : Type → Type} [Monad m]

/-- Formats what was written, and tells whether the run succeeded. -/
def finish (host : Host m) (report : Report) (formatter : Option String) :
    m (Except RunError Report) := do
  match formatter with
  | none => return report.result
  | some command =>
    match ← Formatter.format host command report.written with
    | .error e => return .error (.format e)
    | .ok () => return report.result

end Command

end WideColumn
