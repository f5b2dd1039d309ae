import WideColumn.Disk.SystemError
import WideColumn.Highlight.Style
import WideColumn.Log.Record
import WideColumn.Text.Digits

/-!
# Hosts

A command reaches files, the terminal, its user and other programs through a host and in no other
way, so the same command runs on a real system and on one that is held in memory. A request of a
host may be refused, and what a refusal means is for the command to decide. What a host has for any
program that runs on it are its system calls.

Main definitions: `Note`, `FileStatus`, `ExitStatus`, `SystemCalls`, `Host`.
-/

namespace WideColumn

/-- A short message for the user: a label in a style of its own, and a text. -/
structure Note where
  style : Style
  label : String
  text : String
  deriving DecidableEq

/-- The line of a note, without its end. -/
def Note.line (note : Note) (colors : Bool) : String :=
  note.style.paintText colors note.label ++ " " ++ note.text

/-- What is known about a file or a directory. -/
structure FileStatus where
  isDirectory : Bool
  /-- The number of bytes; a directory has some. -/
  size : Nat
  /-- Who may use it. -/
  mode : Nat
  /-- When it was changed last: a later change has a greater number. -/
  lastChange : Nat
  deriving DecidableEq

/-- The path of the file that stands for what is typed in. -/
def inputPath : String := "/dev/stdin"

/-- How a program ended. -/
structure ExitStatus where
  isSuccess : Bool
  /-- The status as the system words it. -/
  words : String
  deriving DecidableEq

/-- The status of a program that ended with a code. -/
def ExitStatus.ofCode (code : Nat) : ExitStatus :=
  ⟨code = 0, "exit status: " ++ String.ofList (Text.ofNat code)⟩

/-- What every program can ask for, in a monad of the host's choice. -/
structure SystemCalls (m : Type → Type) where
  /-- What is known about what a path leads to. -/
  status : String → m (Except SystemError FileStatus)
  /-- The absolute path without detours of what a path leads to. -/
  resolve : String → m (Except SystemError String)
  /-- The names in the directory at a path. -/
  entries : String → m (Except SystemError (List String))
  /-- The text of the file at a path. -/
  readFile : String → m (Except SystemError String)
  /-- Gives the file at a path a text, and makes the file if it does not exist. -/
  writeFile : (path content : String) → m (Except SystemError Unit)
  /-- Removes the file at a path. -/
  removeFile : String → m (Except SystemError Unit)
  /-- Removes the empty directory at a path. -/
  removeDirectory : String → m (Except SystemError Unit)
  /-- The directories in which programs are looked for. -/
  searchPath : m (List String)
  /-- Sets who may use what a path leads to. -/
  setMode : String → Nat → m (Except SystemError Unit)
  /-- Prints a text. -/
  print : String → m (Except SystemError Unit)
  /-- Shows the user a text as it is, beside the output. -/
  tell : String → m Unit

/-- The directory of the devices. -/
def deviceDirectory : String := "/dev/"

/-- The path leads to a device. -/
def SystemCalls.isDevice {m : Type → Type} [Monad m] (system : SystemCalls m) (path : String) :
    m Bool := do
  match ← system.resolve path with
  | .ok resolved => return resolved.startsWith deviceDirectory
  | .error _ => return false

/-- What commands can ask for. -/
structure Host (m : Type → Type) extends SystemCalls m where
  /-- The path leads to a file or a directory. -/
  isPresent : String → m Bool
  /-- Makes the directory at a path and those on the way to it, where they are missing. -/
  createDirectories : String → m (Except SystemError Unit)
  /-- Asks the user a question, to be answered by yes or no. -/
  confirm : String → m (Except SystemError Bool)
  /-- Shows the user a note. -/
  note : Note → m Unit
  /-- Takes a record for the log. -/
  log : Log.Record → m Unit
  /-- Runs a program to its end, if it can be started. -/
  start : (program : String) → (arguments : List String) → m (Except SystemError ExitStatus)

end WideColumn
