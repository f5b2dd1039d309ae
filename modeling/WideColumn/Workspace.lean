import WideColumn.Disk.FileTree
import WideColumn.Event
import WideColumn.Formatter.Program
import WideColumn.Text.Ascii
import WideColumn.Text.Blank
import WideColumn.Text.Split
import WideColumn.Text.Utf8

/-!
# Workspaces

A workspace is a host that is held in memory: a file tree, a printer that may run out of paper, a
user whose replies are known beforehand, a few programs, and a record of everything that the user
was shown. Commands run on it as they do on a real system, which makes what they do a value that can
be looked at.

Main definitions: `Reply`, `Workspace`, `Workspace.systemCalls`, `Workspace.host`,
`Workspace.terminalText`.
-/

namespace WideColumn

open Text

/-- What comes back when the user is asked. -/
inductive Reply where
  | yes
  | no
  /-- The reply cannot be read. -/
  | failure (cause : SystemError)
  deriving DecidableEq

/-- A host that is held in memory. -/
structure Workspace where
  tree : FileTree
  /-- The directories in which programs are looked for. -/
  searchPath : List String := ["/usr/bin", "/bin"]
  /-- The replies to come. When there are none left, the user says no. -/
  replies : List Reply := []
  /-- What was typed in has been read. -/
  inputIsSpent : Bool := false
  /-- How many bytes the printer still takes, if not all. -/
  room : Option Nat := none
  /-- The bytes that the printer took. -/
  printed : List UInt8 := []
  /-- What the user was shown, in order. -/
  events : List Event := []

/-! ## Replies -/

/-- The reply that a line is: `y` alone means yes, and anything else no. -/
def Reply.ofLine (line : List Char) : Reply :=
  if eqIgnoringAsciiCase (trim line) ['y'] then .yes else .no

/-- The replies that the lines of an input are. -/
def Reply.ofInput (input : String) : List Reply := (splitAt '\n' input.toList).map Reply.ofLine

namespace Workspace

/-! ## Requests -/

/-- Records what the user is shown. -/
def display (event : Event) : StateM Workspace Unit :=
  modify fun w => { w with events := w.events ++ [event] }

/-- Makes a request of the file tree, which stays as it is if the request is refused. -/
def request (change : FileTree → Except SystemError FileTree) :
    StateM Workspace (Except SystemError Unit) := do
  let w ← get
  match change w.tree with
  | .ok tree =>
    set { w with tree }
    return .ok ()
  | .error e => return .error e

/-- Asks the user, and uses up a reply. Whoever asks reads ahead, so nothing that was typed in is
left for others. -/
def ask (question : String) : StateM Workspace (Except SystemError Bool) := do
  display (.asked question)
  modify fun w => { w with inputIsSpent := true }
  let w ← get
  match w.replies with
  | [] => return .ok false
  | reply :: replies =>
    set { w with replies }
    match reply with
    | .yes => return .ok true
    | .no => return .ok false
    | .failure cause => return .error cause

/-- What the printer says when it takes no more. -/
def printerFull : SystemError := .other "writer full"

/-- Prints the bytes that the printer has room for. -/
def printBytes (bytes : List UInt8) : StateM Workspace (Except SystemError Unit) := do
  let w ← get
  match w.room with
  | none =>
    set { w with printed := w.printed ++ bytes }
    return .ok ()
  | some room =>
    set { w with printed := w.printed ++ bytes.take room, room := some (room - bytes.length) }
    return if bytes.length ≤ room then .ok () else .error printerFull

/-- Makes directories in the file tree, which keeps what was made before a refusal. -/
def createDirectories (path : String) : StateM Workspace (Except SystemError Unit) := do
  let w ← get
  let (result, tree) := w.tree.createDirectories path
  set { w with tree }
  return result

/-- Asks something about the file tree. -/
def inquire {α : Type} (look : FileTree → α) : StateM Workspace α := do return look (← get).tree

/-- The number of bytes that a directory is said to have. -/
def directorySize : Nat := 4096

/-- The location of the file that stands for what is typed in. -/
def inputLocation : Location := (Path.names inputPath.toList).reverse

/-- The path leads to what was typed in, of which nothing is left. -/
def isDrained (w : Workspace) (path : String) : Bool :=
  match w.tree.status path with
  | .ok (location, _) => w.inputIsSpent && location = inputLocation
  | .error _ => false

/-- The text of the file at a path. -/
def readFile (w : Workspace) (path : String) : Except SystemError String := do
  let content ← w.tree.readFile path
  return if w.isDrained path then "" else content

/-- What is known about what a path leads to. -/
def status (w : Workspace) (path : String) : Except SystemError FileStatus := do
  let (location, node) ← w.tree.status path
  let size := match node with
    | .file content => if w.isDrained path then 0 else content.utf8ByteSize
    | .directory => directorySize
  return {
    isDirectory := node = .directory
    size
    mode := w.tree.mode location
    lastChange := w.tree.lastChange location }

/-- What a workspace has for programs. -/
def systemCalls : SystemCalls (StateM Workspace) :=
  { status := fun path => do return (← get).status path
    resolve := fun path => inquire fun tree => (tree.status path).map (FileTree.pathOf ·.1)
    entries := fun path => inquire (·.entries path)
    readFile := fun path => do return (← get).readFile path
    writeFile := fun path content => request (·.writeFile path content)
    removeFile := fun path => request (·.removeFile path)
    removeDirectory := fun path => request (·.removeDirectory path)
    searchPath := do return (← get).searchPath
    setMode := fun path mode => request (·.setMode path mode)
    print := fun text => printBytes (utf8 text.toList)
    tell := fun text => display (.told text) }

/-- The workspace as a host. -/
def host : Host (StateM Workspace) :=
  { systemCalls with
    isPresent := fun path => inquire (·.isPresent path)
    createDirectories := createDirectories
    confirm := ask
    note := fun note => display (.noted note)
    log := fun record => display (.logged record)
    start := Formatter.start systemCalls }

/-! ## What is shown -/

/-- The text on the terminal of the user, but for what was printed. -/
def terminalText (w : Workspace) (filter : Log.Filter) (colors : Bool) : String :=
  String.join (w.events.map (Event.text filter colors))

/-- The text that was printed. -/
def printedText (w : Workspace) : String := String.ofList (ofUtf8 w.printed)

/-- The questions that were asked. -/
def questions (w : Workspace) : List String :=
  w.events.filterMap fun
    | .asked question => some question
    | _ => none

/-- The records that were logged. -/
def records (w : Workspace) : List Log.Record :=
  w.events.filterMap fun
    | .logged record => some record
    | _ => none

end Workspace

end WideColumn
