import WideColumn.Formatter.Condition
import WideColumn.Formatter.Edit
import WideColumn.Formatter.Mode
import WideColumn.Formatter.Remove
import WideColumn.Formatter.Search

/-!
# Programs

A formatter command names a program by its first word, and starting it is up to the host. A host
that starts no processes of its own has the few programs below, which work on files through system
calls. A program comes to a code, of which zero means success, and complains to the user about what
it cannot do.

A name without a slash is looked for in some directories, in order. A name with one is a path, which
has to lead to a program; what else it leads to cannot be run.

Main definitions: `Formatter.Program`, `Formatter.Program.find`, `Formatter.Program.run`,
`Formatter.start`.
-/

namespace WideColumn.Formatter

/-- A program that a command may name. -/
inductive Program where
  /-- Does nothing. -/
  | succeed
  /-- Does nothing and fails. -/
  | fail
  /-- Removes files. -/
  | remove
  /-- Edits the lines of files. -/
  | edit
  /-- Searches lines in files. -/
  | search
  /-- Changes who may use files. -/
  | changeMode
  /-- Tells whether a condition holds. -/
  | test
  /-- Tells whether a condition in brackets holds. -/
  | bracket
  deriving DecidableEq, Repr

namespace Program

/-- Every program with its name. -/
def all : List (String × Program) :=
  [("true", succeed), ("false", fail), ("rm", remove), ("sed", edit), ("grep", search),
    ("chmod", changeMode), ("test", test), ("[", bracket)]

/-- The directories in which the programs are. -/
def directories : List String := ["/usr/bin/", "/bin/"]

/-- The program at an absolute path without detours. -/
def at? (path : String) : Option Program :=
  (all.find? fun (name, _) => directories.any fun d => d ++ name == path).map (·.2)

/-! ## Finding programs -/

/-- Directories at the root that lead to the directories of the same name in `/usr`. -/
def mergedDirectories : List String := ["bin", "sbin", "lib"]

/-- The path without a detour through a merged directory. -/
def straight (path : String) : String :=
  match Path.names path.toList with
  | first :: _ =>
    if Path.isAbsolute path.toList && mergedDirectories.contains first then "/usr" ++ path
    else path
  | [] => path

variable {m : Type → Type} [Monad m]

/-- The program that a path leads to. -/
def atPath (system : SystemCalls m) (path : String) : m (Except SystemError Program) := do
  match ← system.resolve (straight path) with
  | .error e => return .error e
  | .ok resolved =>
    match at? resolved with
    | some program => return .ok program
    | none => return .error .permissionDenied

/-- The program of a name in the first directory that has one. What cannot be run is passed over,
but told if there is nothing else. -/
def inDirectories (system : SystemCalls m) (name : String) (isDenied : Bool) :
    List String → m (Except SystemError Program)
  | [] => return .error (if isDenied then .permissionDenied else .noSuchFile)
  | directory :: others => do
    match ← atPath system (if directory.isEmpty then name else directory ++ "/" ++ name) with
    | .ok program => return .ok program
    | .error .permissionDenied => inDirectories system name true others
    | .error e =>
      if e = .noSuchFile || e = .notADirectory then inDirectories system name isDenied others
      else return .error e

/-- The program that the first word of a command means. -/
def find (system : SystemCalls m) (word : String) : m (Except SystemError Program) :=
  if word.toList.contains '/' then atPath system word
  else if word.utf8ByteSize > Path.maxNameBytes then return .error .nameTooLong
  else do inDirectories system word false (← system.searchPath)

/-! ## Running programs -/

/-- Runs a program by the name that it was called by, and tells the code. -/
def run (system : SystemCalls m) (name : String) (arguments : List String) : Program → m Nat
  | succeed => return 0
  | fail => return 1
  | remove => Remove.run system name arguments
  | edit => Edit.run system name arguments
  | search => Search.run system name arguments
  | changeMode => Mode.run system name arguments
  | test => Condition.run system name arguments
  | bracket => Condition.runBracket system name arguments

end Program

/-- The text cannot be handed to a program. -/
def hasNul (text : String) : Bool := text.toList.contains (Char.ofNat 0)

/-- Runs the program of a name to its end, if it can be started. -/
def start {m : Type → Type} [Monad m] (system : SystemCalls m) (name : String)
    (arguments : List String) : m (Except SystemError ExitStatus) := do
  if (name :: arguments).any hasNul then return .error .nulInArgument
  match ← Program.find system name with
  | .error e => return .error e
  | .ok program => return .ok (.ofCode (← program.run system name arguments))

end WideColumn.Formatter
