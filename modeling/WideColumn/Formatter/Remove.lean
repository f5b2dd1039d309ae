import WideColumn.Disk.Path
import WideColumn.Formatter.Choice
import WideColumn.Text.Split

/-!
# Removing files

The program `rm` removes files, and directories with all that is in them if it is told to. What is
missing does not matter if it is told so. If it has to ask, then a line that begins with `y` is a
yes, and without a reply everything stays.

Main definitions: `Formatter.Remove.run`.
-/

namespace WideColumn.Formatter.Remove

/-- What the flags mean. -/
inductive Meaning where
  | force
  | ask
  | askOnce
  | interactive
  | recursive
  | emptyDirectories
  | verbose
  | oneFileSystem
  | rootAllowed
  | rootKept
  | about
  deriving DecidableEq

/-- The flags. -/
def flags : List (Flag Meaning) :=
  [{ meaning := .force, letter := some 'f', word := some "force" },
    { meaning := .ask, letter := some 'i' },
    { meaning := .askOnce, letter := some 'I' },
    { meaning := .interactive, word := some "interactive", takes := .maybeValue },
    { meaning := .oneFileSystem, word := some "one-file-system" },
    { meaning := .rootAllowed, word := some "no-preserve-root" },
    { meaning := .rootKept, word := some "preserve-root", takes := .maybeValue },
    { meaning := .recursive, letter := some 'r', word := some "recursive" },
    { meaning := .recursive, letter := some 'R' },
    { meaning := .emptyDirectories, letter := some 'd', word := some "dir" },
    { meaning := .verbose, letter := some 'v', word := some "verbose" },
    { meaning := .about, word := some "help" },
    { meaning := .about, word := some "version" }]

/-- When the user is asked. -/
inductive Asking where
  | never
  | once
  | always
  deriving DecidableEq

/-- The words for when the user is asked. -/
def askingWords : List (String × Asking) :=
  [("never", .never), ("no", .never), ("none", .never), ("once", .once), ("always", .always),
    ("yes", .always)]

/-- How files are removed. -/
structure Plan where
  name : String
  ignoresMissing : Bool
  asking : Asking
  isRecursive : Bool
  removesEmpty : Bool
  isVerbose : Bool
  /-- The root is never removed with all that is in it. -/
  keepsRoot : Bool

/-- When the user is asked and whether missing files matter, after one more flag. -/
def heed (state : Bool × Asking) (flag : Meaning × Option String) : Bool × Asking :=
  match flag with
  | (.force, _) => (true, .never)
  | (.ask, _) => (false, .always)
  | (.askOnce, _) => (false, .once)
  | (.interactive, some word) =>
    match choose askingWords word with
    | .ok .never => (state.1, .never)
    | .ok asking => (false, asking)
    | .error _ => state
  | (.interactive, none) => (false, .always)
  | _ => state

/-- The plan that flags describe. -/
def Plan.ofGiven (name : String) (given : Given Meaning) : Plan :=
  let (ignoresMissing, asking) := given.flags.foldl heed (false, .never)
  { name
    ignoresMissing
    asking
    isRecursive := given.has .recursive
    removesEmpty := given.has .emptyDirectories
    isVerbose := given.has .verbose
    keepsRoot := given.lastOf? [.rootAllowed, .rootKept] != some .rootAllowed }

/-! ## Removing -/

/-- What came of an attempt to remove something. -/
inductive Outcome where
  | removed
  /-- The user wants to keep it. -/
  | kept
  /-- The user wants to keep a directory as it is, and so those around it stay too. -/
  | untouched
  | failed
  deriving DecidableEq

variable {m : Type → Type} [Monad m]

/-- The lines that the user typed in and that are not used up yet stand by for replies. -/
abbrev WithReplies (m : Type → Type) : Type → Type := StateT (List (List Char)) m

/-- Asks the user, and uses up a reply. -/
def ask (system : SystemCalls m) (plan : Plan) (question : String) : WithReplies m Bool := do
  StateT.lift (system.tell (plan.name ++ ": " ++ question ++ "? "))
  let replies ← get
  set replies.tail
  return match replies with
    | (c :: _) :: _ => c = 'y' || c = 'Y'
    | _ => false

/-- Complains that something cannot be removed. -/
def refuse (system : SystemCalls m) (plan : Plan) (path : String) (cause : SystemError) :
    WithReplies m Outcome := do
  StateT.lift
    (complain system plan.name ("cannot remove " ++ shellQuoted path ++ ": " ++ cause.words))
  return .failed

/-- Removes something by a request, and tells so if that is wanted. -/
def carryOut (system : SystemCalls m) (plan : Plan) (path what : String)
    (request : String → m (Except SystemError Unit)) : WithReplies m Outcome := do
  match ← StateT.lift (request path) with
  | .error e => refuse system plan path e
  | .ok () =>
    if plan.isVerbose then
      let _ ← StateT.lift (system.print (what ++ " " ++ shellQuoted path ++ "\n"))
    return .removed

/-- Asks if that is wanted, and goes on if there is nothing against it. -/
def ifAllowed (system : SystemCalls m) (plan : Plan) (refusal : Outcome) (question : String)
    (next : WithReplies m Outcome) : WithReplies m Outcome := do
  if plan.asking = .always then
    if !(← ask system plan question) then return refusal
  next

/-- The last name of a path, apart from slashes at the end. -/
def lastName (path : String) : Option String := (Path.names path.toList).getLast?

/-- Something is wrong with a directory that an operand names: it is the one that one is in, the one
above or the root. -/
def complainsAbout (system : SystemCalls m) (plan : Plan) (path : String) : m Bool := do
  if lastName path = some "." || lastName path = some ".." then
    complain system plan.name
      ("refusing to remove '.' or '..' directory: skipping " ++ shellQuoted path)
    return true
  let isRoot := (← system.resolve path).toOption = some root
  if plan.isRecursive && plan.keepsRoot && isRoot then
    let same := if path = root then "" else " (same as " ++ shellQuoted root ++ ")"
    complain system plan.name
      ("it is dangerous to operate recursively on " ++ shellQuoted path ++ same)
    complain system plan.name "use --no-preserve-root to override this failsafe"
    return true
  return false
where
  /-- The root. -/
  root : String := "/"

/-- Removes what a path leads to. Below a directory the depth is limited as the length of paths
is. -/
def remove (system : SystemCalls m) (plan : Plan) :
    (depth : Nat) → (isOperand : Bool) → String → WithReplies m Outcome
  | 0, _, _ => return .failed
  | depth + 1, isOperand, path => do
    match ← StateT.lift (system.status path) with
    | .error e =>
      if plan.ignoresMissing && (e = .noSuchFile || e = .notADirectory) then return .removed
      refuse system plan path e
    | .ok status =>
      if !status.isDirectory then
        let kind := if status.size = 0 then "regular empty file " else "regular file "
        ifAllowed system plan .kept ("remove " ++ kind ++ shellQuoted path)
          (carryOut system plan path "removed" system.removeFile)
      else
        let entries := ((← StateT.lift (system.entries path)).toOption.getD [])
        if !plan.isRecursive && !(plan.removesEmpty && entries.isEmpty) then
          refuse system plan path
            (if plan.removesEmpty then .directoryNotEmpty else .isADirectory)
        else if isOperand && (← StateT.lift (complainsAbout system plan path)) then return .failed
        else
          let removal := carryOut system plan path "removed directory" system.removeDirectory
          let question := "remove directory " ++ shellQuoted path
          if entries.isEmpty then ifAllowed system plan .untouched question removal
          else
            ifAllowed system plan .untouched ("descend into directory " ++ shellQuoted path) do
              let outcomes ← entries.mapM fun entry =>
                remove system plan depth false (Path.join path entry)
              -- Whatever kept an entry was told there, so nothing is told here.
              if outcomes.contains .failed then return .failed
              if outcomes.contains .untouched then return .untouched
              ifAllowed system plan .kept question removal

/-- How many operands there may be before the user is asked once. -/
def manyOperands : Nat := 3

/-- Removes what the operands name, and tells the exit status. -/
def removeAll (system : SystemCalls m) (plan : Plan) (operands : List String) :
    WithReplies m Nat := do
  let count := operands.length
  if plan.asking = .once && (plan.isRecursive || count > manyOperands) then
    let question := "remove " ++ String.ofList (Text.ofNat count) ++
      (if count = 1 then " argument" else " arguments") ++
      (if plan.isRecursive then " recursively" else "")
    if !(← ask system plan question) then return 0
  let outcomes ← operands.mapM fun path =>
    remove system plan Path.maxPathBytes true (Path.trimSlashes path)
  return if outcomes.contains .failed then 1 else 0

/-! ## Running -/

/-- What ends a call before anything is removed. -/
inductive Stop where
  /-- The user asks for help. -/
  | help
  | wrongWord (message : String)
  | wrongRoot (text : String)
  /-- A word has to be written out. -/
  | shortened

/-- What a flag ends the call by, if it does. -/
def stop? (arguments : List String) : Meaning × Option String → Option Stop
  | (.about, _) => some .help
  | (.interactive, some word) =>
    match choose askingWords word with
    | .ok _ => none
    | .error e => some (.wrongWord (e.message askingWords "interactive" word))
  | (.rootKept, some text) => if text = "all" then none else some (.wrongRoot text)
  | (.rootAllowed, _) =>
    if arguments.contains "--no-preserve-root" then none else some .shortened
  | _ => none

/-- Runs the program and tells the exit status. -/
def run (system : SystemCalls m) (name : String) (arguments : List String) : m Nat := do
  let given := Flag.scan flags arguments
  match given.flags.findSome? (stop? arguments) with
  | some .help => return 0
  | some (.wrongWord message) =>
    complainAboutCall system name message
    return 1
  | some (.wrongRoot text) =>
    complain system name ("unrecognized --preserve-root argument: " ++ shellQuoted text)
    return 1
  | some .shortened =>
    complain system name "you may not abbreviate the --no-preserve-root option"
    return 1
  | none =>
    let plan := Plan.ofGiven name given
    if let some error := given.error then
      complainAboutCall system name error.message
      return 1
    if given.operands.isEmpty then
      if plan.ignoresMissing then return 0
      complainAboutCall system name "missing operand"
      return 1
    let typed := (← system.readFile inputPath).toOption.getD ""
    let (status, _) ← (removeAll system plan given.operands).run (Text.splitAt '\n' typed.toList)
    return status

end WideColumn.Formatter.Remove
