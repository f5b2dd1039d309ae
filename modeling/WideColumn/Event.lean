import WideColumn.Host
import WideColumn.Log.Filter

/-!
# Events

What the user sees beside the output: questions, notes, what formatters say, and the records that
the log filter lets through. A question leaves the cursor where the reply goes, notes and records
are lines, and what formatters say is shown as it is.

Main definitions: `Event`, `Event.text`.
-/

namespace WideColumn

/-- Something that the user sees. -/
inductive Event where
  | asked (question : String)
  | noted (note : Note)
  | told (text : String)
  | logged (record : Log.Record)
  deriving DecidableEq

/-- The text of an event on a terminal. -/
def Event.text (filter : Log.Filter) (colors : Bool) : Event → String
  | asked question => question ++ " [y/N]: "
  | noted note => note.line colors ++ "\n"
  | told text => text
  | logged record => if filter.shows record then record.line ++ "\n" else ""

end WideColumn
