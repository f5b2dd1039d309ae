import WideColumn.Formatter.Edit.Machine
import WideColumn.Formatter.Edit.Reader

/-!
# Editing files

The program `sed` runs a script on the lines of files, and prints the result or puts it in place of
the files. The script is the first operand, or is given by flags piece by piece.

Main definitions: `Formatter.Edit.run`.
-/

namespace WideColumn.Formatter.Edit

/-- What the flags mean. -/
inductive Meaning where
  | extended
  | inPlace
  | expression
  | scriptFile
  | width
  | nulLines
  | quiet
  | portable
  | sandboxed
  | separate
  | about
  /-- Makes no difference. -/
  | idle
  deriving DecidableEq

/-- The flags. -/
def flags : List (Flag Meaning) :=
  [{ meaning := .idle, letter := some 'b', word := some "binary" },
    { meaning := .extended, letter := some 'E', word := some "regexp-extended" },
    { meaning := .extended, letter := some 'r' },
    { meaning := .idle, word := some "debug" },
    { meaning := .inPlace, letter := some 'i', word := some "in-place", takes := .maybeValue },
    { meaning := .expression, letter := some 'e', word := some "expression", takes := .value },
    { meaning := .scriptFile, letter := some 'f', word := some "file", takes := .value },
    { meaning := .width, letter := some 'l', word := some "line-length", takes := .value },
    { meaning := .nulLines, letter := some 'z', word := some "null-data" },
    { meaning := .nulLines, word := some "zero-terminated" },
    { meaning := .quiet, letter := some 'n', word := some "quiet" },
    { meaning := .portable, word := some "posix" },
    { meaning := .quiet, word := some "silent" },
    { meaning := .sandboxed, word := some "sandbox" },
    { meaning := .separate, letter := some 's', word := some "separate" },
    { meaning := .idle, letter := some 'u', word := some "unbuffered" },
    { meaning := .about, word := some "version" },
    { meaning := .about, word := some "help" },
    { meaning := .idle, word := some "follow-symlinks" }]

/-- The width of lines unless another one is given. -/
def defaultWidth : Nat := 70

/-- What was read of the flags. -/
structure Setup where
  draft : Draft := {}
  /-- The number of pieces of the script that are arguments. -/
  arguments : Nat := 0
  hasScript : Bool := false
  /-- The files that were made. -/
  made : List String := []

/-- Why nothing is edited: an exit status, after what the user is told. -/
abbrev Refusal := Nat

variable {m : Type → Type} [Monad m]

/-- Ends with a complaint. -/
def refuse {α : Type} (system : SystemCalls m) (name : String) (status : Nat) (text : String) :
    ExceptT Refusal m α := do
  ExceptT.lift (complain system name text)
  throw status

/-- How the program is called, for those who called it in another way. -/
def usage (name : String) : String :=
  "Usage: " ++ name ++ " [OPTION]... {script-only-if-no-other-script} [input-file]...\n"

/-- Makes the files that a piece of a script names, and forgets what was in them. -/
def makeFiles (system : SystemCalls m) (name : String) : List String → ExceptT Refusal m Unit
  | [] => return
  | file :: rest => do
    unless file = "/dev/stdout" || file = "/dev/stderr" do
      if let .error cause ← system.writeFile file "" then
        refuse system name 4 ("couldn't open file " ++ file ++ ": " ++ cause.words)
    makeFiles system name rest

/-- Reads a piece of the script. -/
def readPiece (system : SystemCalls m) (name : String) (setup : Setup) (origin : Origin)
    (piece : List Char) : ExceptT Refusal m Setup := do
  let (fault, draft) := setup.draft.read origin piece
  let files := draft.files.reverse.drop setup.made.length
  makeFiles system name files
  if let some fault := fault then refuse system name fault.status fault.message
  return { setup with draft, hasScript := true, made := setup.made ++ files }

/-- Reads a piece of the script that is an argument. -/
def readArgument (system : SystemCalls m) (name : String) (setup : Setup) (piece : String) :
    ExceptT Refusal m Setup := do
  let number := setup.arguments + 1
  let setup ← readPiece system name setup (.argument number) (Text.octets piece.toList)
  return { setup with arguments := number }

/-- Reads a piece of the script that is a file. -/
def readScriptFile (system : SystemCalls m) (name : String) (setup : Setup) (file : String) :
    ExceptT Refusal m Setup := do
  let path := if file = "-" then inputPath else file
  match ← system.readFile path with
  | .ok text => readPiece system name setup (.file file) (Text.octets text.toList)
  | .error .isADirectory => readPiece system name setup (.file file) []
  | .error cause => refuse system name 4 ("couldn't open file " ++ file ++ ": " ++ cause.words)

/-- Takes a flag. -/
def takeFlag (system : SystemCalls m) (name : String) (setup : Setup)
    (flag : Meaning × Option String) : ExceptT Refusal m Setup := do
  let setDialect (change : Dialect → Dialect) : Setup :=
    { setup with draft.dialect := change setup.draft.dialect }
  match flag with
  | (.extended, _) => return setDialect fun d => { d with isExtended := true }
  | (.portable, _) => return setDialect fun d => { d with isPortable := true }
  | (.sandboxed, _) => return setDialect fun d => { d with isSandboxed := true }
  | (.expression, some piece) => readArgument system name setup piece
  | (.scriptFile, some file) => readScriptFile system name setup file
  | (.about, _) => throw 0
  | _ => return setup

/-- The plan that is given, and the files to edit. -/
def plan (system : SystemCalls m) (name : String) (arguments : List String) :
    ExceptT Refusal m (Plan × List String) := do
  let given := Flag.scan flags arguments
  let setup ← given.flags.foldlM (takeFlag system name) {}
  if let some error := given.error then
    ExceptT.lift (system.tell (name ++ ": " ++ error.message ++ "\n" ++ usage name))
    throw 1
  let (setup, files) ← match setup.hasScript, given.operands with
    | true, files => pure (setup, files)
    | false, piece :: files => do pure (← readArgument system name setup piece, files)
    | false, [] => do
      ExceptT.lift (system.tell (usage name))
      throw 1
  match setup.draft.finish with
  | .error fault => refuse system name fault.status fault.message
  | .ok commands =>
    if let some label := Draft.missingLabel? commands then
      refuse system name 4
        ("can't find label for jump to `" ++ String.ofList (Text.ofOctets label) ++ "'")
    let number (digits : List Char) : Nat := Text.decimalValue (digits.takeWhile Char.isDigit)
    return ({
      program := name
      commands
      endPlace := setup.draft.place.start
      isQuiet := setup.draft.isQuiet || given.has .quiet
      isSeparate := given.has .separate || given.has .inPlace
      inPlace := (given.flags.reverse.find? (·.1 = .inPlace)).map (·.2)
      lineEnd := if given.has .nulLines then Char.ofNat 0 else '\n'
      width := (given.values .width).getLast?.elim defaultWidth fun text => number text.toList },
      if files.isEmpty then ["-"] else files)

/-- Runs the program and tells the exit status. -/
def run (system : SystemCalls m) (name : String) (arguments : List String) : m Nat := do
  match ← (plan system name arguments).run with
  | .error status => return status
  | .ok (plan, files) => runScript system plan files

end WideColumn.Formatter.Edit
