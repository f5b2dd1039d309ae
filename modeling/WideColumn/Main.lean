import WideColumn.CommandLine.Run
import WideColumn.Workspace

/-!
# The program

The host of the real system, and the program that runs on it.

Main definitions: `RealSystem.host`, `main`.
-/

namespace WideColumn.RealSystem

/-- What a refusal of the system means. -/
def systemError : IO.Error → SystemError
  | .noFileOrDirectory _ _ _ => .noSuchFile
  | .alreadyExists _ _ _ => .fileExists
  | .permissionDenied _ _ _ => .permissionDenied
  | .inappropriateType _ code _ => if code = 20 then .notADirectory else .isADirectory
  | .invalidArgument _ code details => if code = 36 then .nameTooLong else .other details
  | e => .other (toString e)

/-- Makes a request of the system. -/
def request {α : Type} (action : IO α) : IO (Except SystemError α) := do
  try return .ok (← action)
  catch e => return .error (systemError e)

/-- The path leads to a file or a directory. -/
def isPresent (path : String) : IO Bool := do
  try
    let _ ← IO.FS.realPath path
    return true
  catch _ => return false

/-- The mode that a file has unless it is set. The system does not tell it. -/
def assumedMode (isDirectory : Bool) : Nat :=
  if isDirectory then FileTree.directoryMode else FileTree.fileMode

/-- What is known about what a path leads to. -/
def status (path : String) : IO (Except SystemError FileStatus) := request do
  let data ← (← IO.FS.realPath path).metadata
  let isDirectory := data.type == .dir
  return {
    isDirectory
    size := data.byteSize.toNat
    mode := assumedMode isDirectory
    lastChange := data.modified.sec.toNat * 1000000000 + data.modified.nsec.toNat }

/-- The names in the directory at a path. -/
def entries (path : String) : IO (Except SystemError (List String)) := request do
  let found ← (← IO.FS.realPath path).readDir
  return found.toList.map (·.fileName)

/-- The rights that three bits of a mode stand for. -/
def rights (bits : Nat) : IO.AccessRight :=
  { read := bits / 4 % 2 = 1, write := bits / 2 % 2 = 1, execution := bits % 2 = 1 }

/-- Sets who may use what a path leads to. -/
def setMode (path : String) (mode : Nat) : IO (Except SystemError Unit) := request do
  IO.setAccessRights path
    { user := rights (mode / 64), group := rights (mode / 8), other := rights mode }

/-- Shows a text beside the output. -/
def tell (text : String) : IO Unit := do
  try (← IO.getStderr).putStr text
  catch _ => return ()

/-- Asks the user at the terminal. -/
def confirm (question : String) : IO (Except SystemError Bool) := request do
  tell (Event.text ⟨[]⟩ false (.asked question))
  return Reply.ofLine (← (← IO.getStdin).getLine).toList = .yes

/-- Makes directories; the empty path stands for the working directory. -/
def createDirectories (path : String) : IO (Except SystemError Unit) := request do
  unless path.isEmpty do IO.FS.createDirAll path

/-- What the system has for programs. -/
def systemCalls (filter : Log.Filter) (colors : Bool) (searchPath : List String) :
    SystemCalls IO :=
  { status
    resolve := fun path => request do return toString (← IO.FS.realPath path)
    entries
    readFile := fun path => request (IO.FS.readFile path)
    writeFile := fun path content => request (IO.FS.writeFile path content)
    removeFile := fun path => request (IO.FS.removeFile path)
    removeDirectory := fun path => request (IO.FS.removeDir path)
    searchPath := return searchPath
    setMode
    print := fun text => request do
      let output ← IO.getStdout
      output.putStr text
      output.flush
    tell := fun text => tell (Event.text filter colors (.told text)) }

/-- The system as a host. It starts none but the programs of this library. -/
def host (filter : Log.Filter) (colors : Bool) (searchPath : List String) : Host IO :=
  let systemCalls := systemCalls filter colors searchPath
  { systemCalls with
    isPresent
    createDirectories
    confirm
    note := fun note => tell (Event.text filter colors (.noted note))
    log := fun record => tell (Event.text filter colors (.logged record))
    start := Formatter.start systemCalls }

/-- The variables that the program looks at. -/
def variableNames : List String :=
  ["DB_DEFAULT_KEYSPACE", "DB_CONTACT_POINTS", "DB_PORT", "DB_LOCAL_DATA_CENTER", "DB_USERNAME",
    "DB_PASSWORD", "RUST_LOG", "CLICOLOR_FORCE", "NO_COLOR", "CLICOLOR", "PATH"]

/-- The environment of the program. -/
def environment : IO CommandLine.Environment :=
  variableNames.filterMapM fun name => do return (← IO.getEnv name).map (name, ·)

/-- Runs the program on its arguments and tells the exit status. -/
def run (arguments : List String) : IO Nat := do
  let environment ← environment
  let isTerminal ← (← IO.getStdout).isTty
  let colors := CommandLine.usesColors environment isTerminal
  let asked := CommandLine.parse environment arguments
  let filter := asked.toOption.elim (.atLeast .info) (CommandLine.filter environment)
  let searchPath := CommandLine.searchPath environment
  CommandLine.execute (host filter colors searchPath) ⟨isTerminal, colors⟩ asked

end WideColumn.RealSystem

/-- Generates models from the schema of a keyspace. -/
def main (arguments : List String) : IO UInt32 := do
  return UInt32.ofNat (← WideColumn.RealSystem.run arguments)
