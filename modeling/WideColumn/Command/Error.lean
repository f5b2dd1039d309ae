import WideColumn.Catalog.Source
import WideColumn.Formatter.Basic
import WideColumn.Schema.Column
import WideColumn.Sink

/-!
# Why a run fails

A run stops at the first of these errors. It is shown with its causes, from the error itself down to
what the operating system said; some errors name their cause in their own text already, and then it
is shown twice.

Main definitions: `RunError`, `RunError.message`, `RunError.chain`.
-/

namespace WideColumn

/-- Why a run fails. -/
inductive RunError where
  | settings (cause : SettingsError)
  | catalog (cause : CatalogError)
  /-- The cluster cannot be connected to. -/
  | connection (cause : CatalogError)
  | schema (cause : SchemaError)
  | sink (cause : SinkError)
  | format (cause : FormatError)
  /-- Some models did not come through. -/
  | incomplete (tables : List String)
  deriving DecidableEq

namespace RunError

/-- The error in words, without its causes. -/
def message : RunError → String
  | settings cause => cause.message
  | catalog cause => cause.message
  | connection _ => "failed to connect to the cluster"
  | schema cause => cause.message
  | sink cause => cause.message
  | format cause => cause.message
  | incomplete tables => "could not write models for tables: " ++ ", ".intercalate tables

/-- What the error comes from, the nearest cause first. -/
def causes : RunError → List String
  | settings (.unreadable _ cause) => [cause.message]
  | connection cause => [cause.message]
  | sink (.write _ cause) => [cause.message]
  | sink (.print _ cause) => [cause.message]
  | format (.notStarted _ cause) => [cause.message]
  | _ => []

/-- The error with its causes. -/
def chain (e : RunError) : String := ": ".intercalate (e.message :: e.causes)

end RunError

end WideColumn
