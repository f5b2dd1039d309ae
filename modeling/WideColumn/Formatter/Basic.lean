import WideColumn.Host
import WideColumn.Text.Blank

/-!
# Formatters

The user may name a command that formats the models after they were written. It is cut at blanks
into a program and arguments, and the paths of the models are its last arguments. A command without
a program is an error even if there is nothing to format.

Main definitions: `FormatError`, `Formatter.format`.
-/

namespace WideColumn

/-- Why files were not formatted. -/
inductive FormatError where
  /-- The command has no words. -/
  | emptyCommand
  /-- The program cannot be started. -/
  | notStarted (program : String) (cause : SystemError)
  /-- The program failed. -/
  | failed (program : String) (status : ExitStatus)
  deriving DecidableEq

/-- The error in words. -/
def FormatError.message : FormatError → String
  | emptyCommand => "formatter command is empty"
  | notStarted program cause => "failed to run " ++ program ++ ": " ++ cause.message
  | failed program status => program ++ " exited with " ++ status.words

namespace Formatter

variable {m : Type → Type} [Monad m]

/-- Logs that a program is going to format files. -/
def logBegin (host : Host m) (program : String) (count : Nat) : m Unit :=
  host.log
    { level := .info
      area := .formatter
      message := "formatting models"
      fields := [.quoted "program" program, .count "count" count] }

/-- Logs that a program has formatted files. -/
def logEnd (host : Host m) (program : String) : m Unit :=
  host.log
    { level := .debug
      area := .formatter
      message := "formatter finished"
      fields := [.quoted "program" program] }

/-- Formats files by a command. -/
def format (host : Host m) (command : String) (files : List String) :
    m (Except FormatError Unit) := do
  match (Text.words command.toList).map String.ofList with
  | [] => return .error .emptyCommand
  | program :: arguments =>
    if files.isEmpty then return .ok ()
    logBegin host program files.length
    match ← host.start program (arguments ++ files) with
    | .error cause => return .error (.notStarted program cause)
    | .ok status =>
      if !status.isSuccess then return .error (.failed program status)
      logEnd host program
      return .ok ()

end Formatter

end WideColumn
