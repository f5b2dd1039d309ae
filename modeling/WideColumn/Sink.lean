import WideColumn.Disk.Path
import WideColumn.GeneratedFile
import WideColumn.Highlight.Basic
import WideColumn.Host

/-!
# Sinks

A generated file goes to a sink, which prints it or writes it below a directory. A file that exists
already is replaced only if the policy says so or the user agrees; until then nothing is touched,
not even the directory made.

Main definitions: `Outcome`, `SinkError`, `Sink`, `Sink.console`, `Sink.files`.
-/

namespace WideColumn

/-- What became of a generated file. -/
inductive Outcome where
  | printed
  | written (path : String)
  /-- The file exists, and the user wants to keep it. -/
  | skipped (path : String)
  deriving DecidableEq

/-- Why a sink did not take a generated file. -/
inductive SinkError where
  /-- The file, or the directory for it, cannot be written. -/
  | write (path : String) (cause : SystemError)
  /-- The file cannot be printed. -/
  | print (path : String) (cause : SystemError)
  /-- The user's reply cannot be read. -/
  | confirm (cause : SystemError)
  deriving DecidableEq

/-- The error in words. -/
def SinkError.message : SinkError → String
  | write path cause => "failed to write " ++ path ++ ": " ++ cause.message
  | print path cause => "failed to print " ++ path ++ ": " ++ cause.message
  | confirm cause => "failed to read confirmation: " ++ cause.message

/-- Takes generated files, each for itself. -/
structure Sink (m : Type → Type) where
  emit : GeneratedFile → m (Except SinkError Outcome)

/-- What to do about a file that exists already. -/
inductive OverwritePolicy where
  /-- It is replaced. -/
  | always
  /-- The user is asked. -/
  | ask
  deriving DecidableEq

namespace Sink

variable {m : Type → Type} [Monad m]

/-- Prints each file, highlighted or not, and a newline after it. -/
def console (host : Host m) (highlight colors : Bool) : Sink m where
  emit file := do
    let text := Highlight.highlight file.language highlight colors file.content
    match ← host.print (text ++ "\n") with
    | .ok () => return .ok .printed
    | .error cause => return .error (.print file.path cause)

/-- The question whether a file may be replaced. -/
def question (path : String) : String := path ++ " already exists. Overwrite?"

/-- Whether a path may be written: always, or when nothing is there, or when the user agrees. -/
def mayWrite (host : Host m) (policy : OverwritePolicy) (path : String) :
    m (Except SystemError Bool) := do
  match policy with
  | .always => return .ok true
  | .ask => if ← host.isPresent path then host.confirm (question path) else return .ok true

/-- Makes a directory where it is missing and writes a file. -/
def store (host : Host m) (dir path content : String) : m (Except SinkError Outcome) := do
  match ← host.createDirectories dir with
  | .error cause => return .error (.write dir cause)
  | .ok () =>
    match ← host.writeFile path content with
    | .error cause => return .error (.write path cause)
    | .ok () =>
      host.log
        { level := .debug
          area := .sink
          message := "wrote file"
          fields := [.plain "path" path, .count "bytes" content.utf8ByteSize] }
      return .ok (.written path)

/-- Writes each file below a directory, unless it exists and the user wants to keep it. -/
def files (host : Host m) (dir : String) (policy : OverwritePolicy) : Sink m where
  emit file := do
    let path := Path.join dir file.path
    match ← mayWrite host policy path with
    | .error cause => return .error (.confirm cause)
    | .ok true => store host dir path file.content
    | .ok false =>
      host.log
        { level := .info
          area := .sink
          message := "kept existing file"
          fields := [.plain "path" path] }
      return .ok (.skipped path)

end Sink

end WideColumn
