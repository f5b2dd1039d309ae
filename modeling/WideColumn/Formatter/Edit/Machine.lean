import WideColumn.Disk.Path
import WideColumn.Formatter.Complaint
import WideColumn.Formatter.Edit.Basic
import WideColumn.Formatter.Edit.Fault

/-!
# Running edit scripts

A machine reads files line by line and runs the commands of a script on each line. It has a buffer
with the line, and a store that commands exchange texts with. Files are read as one stream, or each
for itself; then lines are counted anew in each file, and every file has a last line.

What is printed goes to the output, or takes the place of the file that is read. A line without an
end is printed without one, and gets it when something else is printed after it.

Main definitions: `Edit.Plan`, `Edit.Machine`, `Edit.Run`, `Edit.runScript`.
-/

namespace WideColumn.Formatter.Edit

/-! ## Machines -/

/-- How a script is run. -/
structure Plan where
  /-- The name by which the program was called. -/
  program : String
  commands : List Command
  /-- Where the script ends. -/
  endPlace : Place
  /-- Lines are only printed by commands. -/
  isQuiet : Bool
  /-- Each file is read for itself. -/
  isSeparate : Bool
  /-- What is printed takes the place of the file. A text says how the name of a file is made to
  which the file is moved. -/
  inPlace : Option (Option String)
  /-- The character at the end of lines. -/
  lineEnd : Char
  /-- The width of lines in which all characters can be seen, with no limit if it is zero. -/
  width : Nat

/-- A text with a line. -/
structure Buffer where
  text : List Char := []
  /-- The line had an end. -/
  isEnded : Bool := true

/-- What is known about a range of lines. -/
inductive RangeState where
  | idle
  /-- The range has begun, and ends at the latest at a line of this number. -/
  | running (last : Option Nat)
  | over
  deriving DecidableEq

/-- A file that is being read. -/
structure Source where
  name : String
  /-- What is left of the file. -/
  rest : List Char
  isDirectory : Bool
  /-- The text of the file. -/
  whole : String

/-- What is printed before the next line. -/
inductive Queued where
  | text (text : List Char)
  | file (name : String)

/-- Where something is printed. -/
inductive Outlet where
  | main
  | file (name : String)
  deriving DecidableEq

/-- The state of a run. -/
structure Machine where
  source : Option Source := none
  /-- The name of the file that was opened last. -/
  fileName : String := "-"
  /-- The files that are read after this one. -/
  waiting : List String
  /-- A file could not be read. -/
  isFaulty : Bool := false
  lineNumber : Nat := 0
  buffer : Buffer := {}
  store : Buffer := {}
  /-- Something was replaced since the line was read. -/
  hasReplaced : Bool := false
  queue : List Queued := []
  /-- What was searched for last. -/
  latest : Option (Pattern × Pattern.Mode) := none
  /-- It was searched for to select lines. -/
  isLatestSelecting : Bool := false
  /-- The ranges of commands that are not as they were in the beginning. -/
  ranges : List (Nat × RangeState) := []
  /-- What is left of the files that are read line by line. -/
  readers : List (String × List Char) := []
  /-- What was printed, the last text first. -/
  printed : List (List Char) := []
  /-- What takes the place of the file, the last text first. -/
  edited : List (List Char) := []
  /-- What is written to files, the last text first. -/
  written : List (String × List (List Char)) := []
  /-- The outlets where the last line has no end. -/
  owing : List Outlet := []
  /-- The files that were edited in place, by their absolute paths. -/
  replaced : List String := []

/-- What ends a run before the files do. -/
inductive Ending where
  | quit (status : Nat)
  /-- The run has failed, and what was printed takes the place of no file any more. -/
  | failed (status : Nat)

/-- A step of a run. -/
abbrev Run (m : Type → Type) := ExceptT Ending (StateT Machine m)

namespace Run

variable {m : Type → Type} [Monad m]

/-- Asks the system. -/
def ask {α : Type} (request : m α) : Run m α := monadLift request

/-- Ends the run with a complaint. -/
def fail {α : Type} (system : SystemCalls m) (plan : Plan) (status : Nat) (text : String) :
    Run m α := do
  ask (complain system plan.program text)
  throw (.failed status)

/-- Ends the run because of a fault in the script. -/
def fault {α : Type} (system : SystemCalls m) (plan : Plan) (cause : Cause) : Run m α :=
  let fault : Fault := ⟨cause, plan.endPlace⟩
  fail system plan fault.status fault.message

/-- Ends the run because a directory cannot be read. -/
def failRead {α : Type} (system : SystemCalls m) (plan : Plan) (name : String) : Run m α :=
  fail system plan 4 ("read error on " ++ name ++ ": " ++ SystemError.isADirectory.words)

/-- The text of a file that a command names, which is empty if there is no such file. -/
def commandFile (system : SystemCalls m) (plan : Plan) (name : String) : Run m (List Char) := do
  match ← ask (system.readFile name) with
  | .ok text => return Text.octets text.toList
  | .error .isADirectory => failRead system plan name
  | .error _ => return []

/-! ## Printing -/

/-- Prints a text as it is. -/
def emit (system : SystemCalls m) (plan : Plan) (outlet : Outlet) (text : List Char) :
    Run m Unit := do
  let print : Run m Unit :=
    modify fun machine => { machine with printed := text :: machine.printed }
  match outlet with
  | .main =>
    if plan.inPlace.isSome then
      modify fun machine => { machine with edited := text :: machine.edited }
    else print
  | .file "/dev/stdout" => print
  | .file "/dev/stderr" => ask (system.tell (String.ofList (Text.ofOctets text)))
  | .file name =>
    modify fun machine =>
      let earlier := (machine.written.lookup name).getD []
      { machine with
        written := (name, text :: earlier) :: machine.written.filter (·.1 ≠ name) }

/-- Prints a text, and in front of it the end of the line before, if it has none. -/
def put (system : SystemCalls m) (plan : Plan) (outlet : Outlet) (text : List Char) :
    Run m Unit := do
  let isOwing := (← get).owing.contains outlet
  modify fun machine => { machine with owing := machine.owing.filter (· ≠ outlet) }
  emit system plan outlet (if isOwing then plan.lineEnd :: text else text)

/-- Prints a line. -/
def putLine (system : SystemCalls m) (plan : Plan) (outlet : Outlet) (line : Buffer) :
    Run m Unit := do
  put system plan outlet (if line.isEnded then line.text ++ [plan.lineEnd] else line.text)
  unless line.isEnded do
    modify fun machine => { machine with owing := outlet :: machine.owing }

/-- Prints the buffer, unless lines are only printed by commands. -/
def putBuffer (system : SystemCalls m) (plan : Plan) : Run m Unit := do
  unless plan.isQuiet do putLine system plan .main (← get).buffer

/-- Prints what was put off until the next line. -/
def putQueue (system : SystemCalls m) (plan : Plan) : Run m Unit := do
  let queue := (← get).queue
  modify fun machine => { machine with queue := [] }
  queue.forM fun queued =>
    match queued with
    | .text text => put system plan .main text
    | .file name => do put system plan .main (← commandFile system plan name)

/-! ## Files -/

/-- The file to which a file is moved: stars in the text stand for its name, which otherwise comes
first. Without a slash in the text it is in the same directory. -/
def backupName (text file : String) : String :=
  let name := (file.toList.reverse.takeWhile (· ≠ '/')).reverse
  let directory := file.toList.take (file.length - name.length)
  let text := text.toList
  let moved :=
    if text.contains '*' then text.flatMap fun c => if c = '*' then name else [c]
    else name ++ text
  String.ofList (if moved.contains '/' then moved else directory ++ moved)

/-- Ends reading a file. What was printed takes its place. -/
def close (system : SystemCalls m) (plan : Plan) : Run m Unit := do
  let machine ← get
  match machine.source, plan.inPlace with
  | some source, some backup =>
    if let some text := backup then
      let name := backupName text source.name
      let moved ←
        if name.toList.getLast? = some '/' then pure (.error .notADirectory)
        else ask (system.writeFile name source.whole)
      if let .error cause := moved then
        fail system plan 4 ("cannot rename " ++ source.name ++ ": " ++ cause.words)
    -- The backup is made before the new text takes the place of the old one.
    let text := Text.ofOctets machine.edited.reverse.flatten
    let _ ← ask (system.writeFile source.name (String.ofList text))
    let path := (← ask (system.resolve source.name)).toOption
    modify fun machine =>
      { machine with source := none, replaced := path.toList ++ machine.replaced }
  | _, _ => modify fun machine => { machine with source := none }

/-- Begins to read a file. -/
def openFile (system : SystemCalls m) (plan : Plan) (name : String) : Run m Unit := do
  modify fun machine => { machine with fileName := name }
  let start (isDirectory : Bool) (text : String) : Run m Unit :=
    modify fun machine =>
      { machine with
        source := some { name, isDirectory, rest := Text.octets text.toList, whole := text }
        edited := []
        owing := if plan.inPlace.isSome then machine.owing.filter (· ≠ .main) else machine.owing }
  if name = "-" && plan.inPlace.isNone then
    start false ((← ask (system.readFile inputPath)).toOption.getD "")
  else
    let irregular := "couldn't edit " ++ name ++ ": not a regular file"
    match ← ask (system.readFile name) with
    | .ok text =>
      if plan.inPlace.isSome && (← ask (system.isDevice name)) then fail system plan 4 irregular
      start false text
    | .error .isADirectory =>
      if plan.inPlace.isSome then fail system plan 4 irregular
      start true ""
    | .error cause =>
      ask (complain system plan.program ("can't read " ++ name ++ ": " ++ cause.words))
      modify fun machine => { machine with isFaulty := true }

/-- Begins to read the first file that waits. If each file is read for itself, all begins anew. -/
def openWaiting (system : SystemCalls m) (plan : Plan) (name : String) (others : List String) :
    Run m Unit := do
  modify fun machine => { machine with waiting := others }
  if plan.isSeparate then
    modify fun machine =>
      { machine with lineNumber := 0, ranges := [], store.text := [], readers := [] }
  openFile system plan name

/-- The first line of a text, and what follows. -/
def cutLine (lineEnd : Char) (text : List Char) : Buffer × List Char :=
  match text.dropWhile (· ≠ lineEnd) with
  | [] => ({ text, isEnded := false }, [])
  | _ :: rest => ({ text := text.takeWhile (· ≠ lineEnd) }, rest)

/-- The next line of the files. -/
def nextLine (system : SystemCalls m) (plan : Plan) : (fuel : Nat) → Run m (Option Buffer)
  | 0 => return none
  | fuel + 1 => do
    let machine ← get
    match machine.source, machine.waiting with
    | none, [] => return none
    | none, name :: others =>
      openWaiting system plan name others
      nextLine system plan fuel
    | some source, _ =>
      if source.isDirectory then failRead system plan source.name
      if source.rest.isEmpty then
        close system plan
        nextLine system plan fuel
      else
        let (line, rest) := cutLine plan.lineEnd source.rest
        set { machine with source := some { source with rest } }
        return some line

/-- Reads the next line, in addition to the buffer or in its place, and tells whether there is
one. -/
def readLine (system : SystemCalls m) (plan : Plan) (isJoined : Bool) : Run m Bool := do
  putQueue system plan
  modify fun machine => { machine with hasReplaced := false }
  match ← nextLine system plan (2 * (← get).waiting.length + 3) with
  | none => return false
  | some line =>
    modify fun machine =>
      let text := if isJoined then machine.buffer.text ++ plan.lineEnd :: line.text else line.text
      { machine with buffer := { line with text }, lineNumber := machine.lineNumber + 1 }
    return true

/-- Looks for further lines in the files that wait, and passes over files without lines. -/
def hasNoneWaiting (system : SystemCalls m) (plan : Plan) : List String → Run m Bool
  | [] => do
    modify fun machine => { machine with source := none, waiting := [] }
    return true
  | name :: others => do
    modify fun machine => { machine with source := none, waiting := others }
    openFile system plan name
    let source := (← get).source
    if source.any fun source => !source.rest.isEmpty then return false
    hasNoneWaiting system plan others

/-- The line is the last one. -/
def isLast (system : SystemCalls m) (plan : Plan) : Run m Bool := do
  let machine ← get
  if machine.source.any fun source => !source.rest.isEmpty then return false
  else if plan.isSeparate then return true
  else hasNoneWaiting system plan machine.waiting

/-! ## Selecting -/

/-- Searches the buffer from a place on, to select lines or else to replace what is found, where
groups up to the greatest one are referred to. They have to be there if the pattern selected lines
before. -/
def search (system : SystemCalls m) (plan : Plan) (target : Target) (greatestGroup : Option Nat)
    (cursor : Pattern.Cursor) : Run m (Option Pattern.Match) := do
  let (pattern, mode) ← match target with
    | .pattern pattern mode =>
      modify fun machine => { machine with isLatestSelecting := greatestGroup.isNone }
      pure (pattern, mode)
    | .latest =>
      match (← get).latest with
      | none => fault system plan .noPatternYet
      | some latest => pure latest
  if let some greatest := greatestGroup then
    if (← get).isLatestSelecting && pattern.groupCount < greatest then
      fault system plan (.badReference greatest)
    modify fun machine => { machine with isLatestSelecting := false }
  modify fun machine => { machine with latest := some (pattern, mode) }
  return pattern.find? mode cursor

/-- The line is one that an address names. -/
def isAt (system : SystemCalls m) (plan : Plan) : Address → Run m Bool
  | .line number => return (← get).lineNumber = number
  | .stride first step => do
    let number := (← get).lineNumber
    return first ≤ number && (number - first) % step = 0
  | .lastLine => isLast system plan
  | .matching target => do
    return (← search system plan target none (.start (← get).buffer.text)).isSome

/-- What is known about the range of a command. A range that begins at line zero runs from the
beginning. -/
def rangeState (machine : Machine) (command : Command) : RangeState :=
  match machine.ranges.lookup command.number with
  | some state => state
  | none => if command.selection.first = some (.line 0) then .running none else .idle

/-- Changes what is known about the range of a command. -/
def setRange (command : Command) (state : RangeState) : Run m Unit :=
  modify fun machine =>
    { machine with
      ranges := (command.number, state) :: machine.ranges.filter (·.1 ≠ command.number) }

/-- A range may begin at the line. One that begins at a line of a number may do so later. -/
def mayBegin (system : SystemCalls m) (plan : Plan) (first : Address) (state : RangeState) :
    Run m Bool := do
  match first with
  | .line number => return state ≠ .over && number ≤ (← get).lineNumber
  | first => isAt system plan first

/-- Begins a range, and tells whether the line is in it. -/
def beginRange (system : SystemCalls m) (plan : Plan) (command : Command) (first : Address)
    (last : RangeEnd) : Run m Bool := do
  let line := (← get).lineNumber
  let runUpTo (number : Nat) : Run m Bool := do
    setRange command (.running (some number))
    return true
  match last with
  | .address (.line number) =>
    -- A range whose end is not after its beginning is one line.
    if line < number then runUpTo number
    else
      setRange command .over
      match first with
      | .line begin => return line ≤ number || line = begin
      | _ => return true
  | .following 0 | .multiple 0 =>
    setRange command .over
    return true
  | .following count => runUpTo (line + count)
  | .multiple number => runUpTo (line - line % number + number)
  | .address (.stride start step) =>
    setRange command (if ← isAt system plan (.stride start step) then .over else .running none)
    return true
  | .address _ =>
    setRange command (.running none)
    return true

/-- The line is in the range of a command. -/
def isInRange (system : SystemCalls m) (plan : Plan) (command : Command) (first : Address)
    (last : RangeEnd) : Run m Bool := do
  let line := (← get).lineNumber
  match rangeState (← get) command with
  | .running (some number) =>
    -- Lines may have been passed over by commands that read on, so the end can lie behind.
    if number ≤ line then setRange command .over
    return line ≤ number || !last.isNumber
  | .running none =>
    let isOver ← match last with
      | .address address => isAt system plan address
      | _ => pure true
    if isOver then setRange command .over
    return true
  | state =>
    if ← mayBegin system plan first state then beginRange system plan command first last
    else return false

/-- The command is for the line. -/
def selects (system : SystemCalls m) (plan : Plan) (command : Command) : Run m Bool := do
  let selection := command.selection
  let isIn ← match selection.first, selection.last with
    | none, _ => pure true
    | some first, none => isAt system plan first
    | some first, some last => isInRange system plan command first last
  return isIn != selection.isNegated

/-! ## Substituting -/

/-- What takes the place of a match. `pending` is the case of the next character, if it has one of
its own that is not used yet. -/
def replacement (found : Pattern.Match) :
    (pending : Option LetterCase) → List Insertion → List Char
  | _, [] => []
  | pending, insertion :: rest =>
    let rule := { insertion.rule with first := insertion.rule.first <|> pending }
    let text := rule.apply insertion.text
    let rule := if insertion.text.isEmpty then rule else { rule with first := none }
    match insertion.group with
    | none => text ++ replacement found none rest
    | some number =>
      let group := found.group number
      let left := if group.isEmpty && insertion.rule.first.isSome then rule.first else none
      text ++ rule.apply group ++ replacement found left rest

/-- The text with matches replaced from a place on, and whether any was. `seen` matches are in front
of it, the last of which ends at `lastEnd`. A match without characters is passed over where another
match ends. -/
def substituteFrom (system : SystemCalls m) (plan : Plan) (substitution : Substitution) :
    (fuel seen : Nat) → (lastEnd : Option Nat) → Pattern.Cursor → Run m (List Char × Bool)
  | 0, _, _, cursor => return (cursor.rest, false)
  | fuel + 1, seen, lastEnd, cursor => do
    match ← search system plan substitution.target substitution.greatestGroup cursor with
    | none => return (cursor.rest, false)
    | some found =>
      let before := cursor.upTo found.start
      let isPassedOver := found.isEmpty && lastEnd = some found.start.position
      -- What is passed over does not count, but the search goes on behind it.
      let seen := if isPassedOver then seen else seen + 1
      let isReplaced := !isPassedOver && substitution.number ≤ seen
      let here := if isReplaced then replacement found none substitution.insertions else found.text
      if isReplaced && !substitution.isGlobal then
        return (before ++ here ++ found.stop.rest, true)
      let goOn (passed : List Char) (cursor : Pattern.Cursor) : Run m (List Char × Bool) := do
        let (rest, isAnyReplaced) ←
          substituteFrom system plan substitution fuel seen (some found.stop.position) cursor
        return (before ++ here ++ passed ++ rest, isReplaced || isAnyReplaced)
      if !found.isEmpty then goOn [] found.stop
      else
        match found.stop.next? with
        | some (c, cursor) => goOn [c] cursor
        | none => return (before ++ here, isReplaced)

/-- Runs a substitution. -/
def substitute (system : SystemCalls m) (plan : Plan) (substitution : Substitution) :
    Run m Unit := do
  let text := (← get).buffer.text
  let (text, isReplaced) ←
    substituteFrom system plan substitution (text.length + 2) 0 none (.start text)
  if isReplaced then
    modify fun machine => { machine with buffer.text := text, hasReplaced := true }
    let print : Run m Unit := do putLine system plan .main (← get).buffer
    if substitution.prints && substitution.runs && substitution.printsBeforeRun then print
    if substitution.runs then modify fun machine => { machine with buffer.text := [] }
    if substitution.prints && !(substitution.runs && substitution.printsBeforeRun) then print
    if let some name := substitution.output then putLine system plan (.file name) (← get).buffer

/-! ## Commands -/

/-- A character so that it can be seen. -/
def visible (c : Char) : List Char :=
  if c = '\\' then ['\\', '\\'] else if isPlain c then [c] else octalEscape c

/-- A text so that all characters can be seen, with backslashes where lines are cut. `column`
characters are on the line. -/
def visibleLines (lineEnd : Char) (width : Nat) : (column : Nat) → List Char → List Char
  | _, [] => ['$', lineEnd]
  | column, c :: r =>
    let shown := visible c
    if width > 0 && column + shown.length > width - 1 then
      ['\\', lineEnd] ++ shown ++ visibleLines lineEnd width shown.length r
    else shown ++ visibleLines lineEnd width (column + shown.length) r

/-- A text whose last character gives way to the end of a line. -/
def endedText (plan : Plan) (text : List Char) : List Char :=
  if text.isEmpty then [] else text.dropLast ++ [plan.lineEnd]

/-- The next line of a file that is read line by line. -/
def readerLine (system : SystemCalls m) (plan : Plan) (name : String) : Run m (List Char) := do
  let text ← match (← get).readers.lookup name with
    | some rest => pure rest
    | none => commandFile system plan name
  let (line, rest) := cutLine plan.lineEnd text
  modify fun machine =>
    { machine with readers := (name, rest) :: machine.readers.filter (·.1 ≠ name) }
  return if line.isEnded then line.text ++ [plan.lineEnd] else line.text

/-- The first line of the buffer. -/
def firstLine (plan : Plan) (buffer : Buffer) : Buffer :=
  if buffer.text.contains plan.lineEnd then
    { text := buffer.text.takeWhile (· ≠ plan.lineEnd) }
  else buffer

/-- Where a run goes on. -/
inductive Next where
  /-- At a command. -/
  | at (commands : List Command)
  /-- With the next line. -/
  | line
  /-- With the first command and the same buffer. -/
  | again

/-- Puts something off until the next line. -/
def enqueue (queued : Queued) : Run m Unit :=
  modify fun machine => { machine with queue := machine.queue ++ [queued] }

/-- Goes on after a label if the condition holds. -/
def jump (plan : Plan) (condition : JumpCondition) (label : List Char) (rest : List Command) :
    Run m Next := do
  let hasReplaced := (← get).hasReplaced
  if condition ≠ .always then modify fun machine => { machine with hasReplaced := false }
  let isMade := match condition with
    | .always => true
    | .ifReplaced => hasReplaced
    | .unlessReplaced => !hasReplaced
  if !isMade then return .at rest
  else if label.isEmpty then return .at []
  else return .at ((after? label plan.commands).getD [])

/-- Does what a command says. `rest` are the commands after it. -/
def act (system : SystemCalls m) (plan : Plan) (command : Command) (rest : List Command) :
    Run m Next := do
  let machine ← get
  let buffer := machine.buffer
  let goOn (action : Run m Unit) : Run m Next := do
    action
    return .at rest
  let setBuffer (buffer : Buffer) : Run m Next :=
    goOn (modify fun machine => { machine with buffer })
  let setStore (store : Buffer) : Run m Next := goOn (modify fun machine => { machine with store })
  let join (first second : Buffer) : Buffer :=
    { second with text := first.text ++ plan.lineEnd :: second.text }
  match command.action with
  | .beginBlock | .endBlock | .label _ => return .at rest
  | .jump condition label => jump plan condition label rest
  | .append text => goOn (enqueue (.text text))
  | .insert text => goOn (put system plan .main (endedText plan text))
  | .change text =>
    match rangeState machine command with
    | .running _ => return .line
    | _ =>
      put system plan .main (endedText plan text)
      return .line
  | .delete => return .line
  | .deleteFirst =>
    match buffer.text.dropWhile (· ≠ plan.lineEnd) with
    | [] => return .line
    | _ :: text =>
      modify fun machine => { machine with buffer.text := text }
      return .again
  | .print => goOn (putLine system plan .main buffer)
  | .printFirst => goOn (putLine system plan .main (firstLine plan buffer))
  | .printNumber =>
    goOn (put system plan .main (Text.ofNat machine.lineNumber ++ [plan.lineEnd]))
  | .printName =>
    goOn (put system plan .main (Text.octets machine.fileName.toList ++ [plan.lineEnd]))
  | .display width =>
    goOn (put system plan .main
      (visibleLines plan.lineEnd (width.getD plan.width) 0 buffer.text))
  | .next =>
    let isLast ← isLast system plan
    putBuffer system plan
    if isLast then return .line
    else if ← readLine system plan false then return .at rest
    else return .line
  | .join =>
    if ← isLast system plan then
      putBuffer system plan
      return .line
    else if ← readLine system plan true then return .at rest
    else return .line
  | .hold => setStore buffer
  | .holdMore => setStore (join machine.store buffer)
  | .get => setBuffer machine.store
  | .getMore => setBuffer (join buffer machine.store)
  | .exchange =>
    goOn (modify fun machine => { machine with buffer := machine.store, store := machine.buffer })
  | .clear => setBuffer { buffer with text := [] }
  | .substitute substitution => goOn (Run.substitute system plan substitution)
  | .transliterate table =>
    let replace (c : Char) : Char := (table.reverse.lookup c).getD c
    setBuffer { buffer with text := buffer.text.map replace }
  | .readFile name => goOn (enqueue (.file name))
  | .readFileAtOnce name => goOn (emit system plan .main (← commandFile system plan name))
  | .readLine name =>
    let line ← readerLine system plan name
    if line.isEmpty then return .at rest else goOn (enqueue (.text line))
  | .writeFile name => goOn (putLine system plan (.file name) buffer)
  | .writeFirst name => goOn (putLine system plan (.file name) (firstLine plan buffer))
  | .runShell none => setBuffer {}
  | .runShell (some _) => return .at rest
  | .quit status =>
    putBuffer system plan
    put system plan .main []
    putQueue system plan
    throw (.quit status)
  | .quitSilently status => throw (.quit status)
  | .obsolete letter =>
    fail system plan 4 ("INTERNAL ERROR: Bad cmd " ++ String.singleton letter)

/-- Goes on at a place, and tells the next place; none at the end of the files. -/
def step (system : SystemCalls m) (plan : Plan) : Next → Run m (Option Next)
  | .line => do
    if ← readLine system plan false then return some (.at plan.commands) else return none
  | .again => return some (.at plan.commands)
  | .at [] => do
    putBuffer system plan
    return some .line
  | .at (command :: rest) => do
    if ← selects system plan command then return some (← act system plan command rest)
    else if command.action = .beginBlock then return some (.at (pastBlock 0 rest))
    else return some (.at rest)

/-- Goes on from a place to the end of the files. -/
def steps (system : SystemCalls m) (plan : Plan) : (fuel : Nat) → Next → Run m Unit
  | 0, _ => return
  | fuel + 1, place => do
    match ← step system plan place with
    | some next => steps system plan fuel next
    | none => return

end Run

/-! ## Runs -/

variable {m : Type → Type} [Monad m]

/-- A script that takes more steps than this does not end. -/
def maxSteps : Nat := 1000000

/-- Prints what the machine has printed, and writes the files. A file that was edited in place
meanwhile is another one, and stays. -/
def flush (system : SystemCalls m) (machine : Machine) : m Unit := do
  let text (parts : List (List Char)) : String :=
    String.ofList (Text.ofOctets parts.reverse.flatten)
  let printed := text machine.printed
  unless printed.isEmpty do
    let _ ← system.print printed
  machine.written.reverse.forM fun (name, parts) => do
    let path := (← system.resolve name).toOption
    unless path.any machine.replaced.contains do
      let _ ← system.writeFile name (text parts)

/-- Runs a script on files and tells the exit status. -/
def runScript (system : SystemCalls m) (plan : Plan) (files : List String) : m Nat := do
  let script : Run m Unit := do
    try Run.steps system plan maxSteps .line
    catch
      | .quit status =>
        Run.close system plan
        throw (.quit status)
      | ending => throw ending
  let (ending, machine) ← script.run { waiting := files }
  flush system machine
  let status := if machine.isFaulty then 2 else 0
  match ending with
  | .error (.failed status) => return status
  | .error (.quit 0) | .ok () => return status
  | .error (.quit asked) => return if machine.isFaulty then status else asked

end WideColumn.Formatter.Edit
