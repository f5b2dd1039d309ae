import WideColumn.Disk.Path
import WideColumn.Formatter.Choice
import WideColumn.Pattern.Reader
import WideColumn.Pattern.Search
import WideColumn.Text.Split

/-!
# Searching files

The program `grep` prints the lines of files in which a pattern is found. Flags say how patterns are
spelled and when a line is selected, and what is printed: the lines with some context or the
matching parts alone, only counts or the names of files, or nothing. The exit status tells whether a
line was selected, unless a file could not be read.

Texts are lists of octets here.

Main definitions: `Formatter.Search.Selector`, `Formatter.Search.Layout`, `Formatter.Search.run`.
-/

namespace WideColumn.Formatter.Search

/-! ## Flags -/

/-- What the flags mean. -/
inductive Meaning where
  | basic
  | extended
  | fixed
  | perl
  | pattern
  | patternFile
  | ignoreCase
  | heedCase
  | word
  | line
  | nulLines
  | silent
  | invert
  | about
  | maxCount
  | offset
  | number
  | withName
  | withoutName
  | onlyMatching
  | quiet
  | recursive
  | directories
  | unmatchedFiles
  | matchedFiles
  | count
  | initialTab
  | nulNames
  | before
  | after
  | around
  | digit (d : Nat)
  | separator
  | noSeparator
  | onlyFiles
  | skippedFiles
  | skippedDirectories
  | binaryFiles
  | withoutBinary
  | text
  | label
  | color
  | devices
  | skippedFrom
  /-- Names the kind of patterns. -/
  | matcher
  /-- Makes no difference, and the user is told so. -/
  | obsolete
  /-- Makes no difference. -/
  | idle
  deriving DecidableEq

/-- The flags. -/
def flags : List (Flag Meaning) :=
  [{ meaning := .basic, letter := some 'G', word := some "basic-regexp" },
    { meaning := .extended, letter := some 'E', word := some "extended-regexp" },
    { meaning := .fixed, word := some "fixed-regexp" },
    { meaning := .fixed, letter := some 'F', word := some "fixed-strings" },
    { meaning := .perl, letter := some 'P', word := some "perl-regexp" },
    { meaning := .after, letter := some 'A', word := some "after-context", takes := .value },
    { meaning := .before, letter := some 'B', word := some "before-context", takes := .value },
    { meaning := .binaryFiles, word := some "binary-files", takes := .value },
    { meaning := .idle, letter := some 'U', word := some "binary" },
    { meaning := .offset, letter := some 'b', word := some "byte-offset" },
    { meaning := .around, letter := some 'C', word := some "context", takes := .value },
    { meaning := .color, word := some "color", takes := .maybeValue },
    { meaning := .color, word := some "colour", takes := .maybeValue },
    { meaning := .count, letter := some 'c', word := some "count" },
    { meaning := .devices, letter := some 'D', word := some "devices", takes := .value },
    { meaning := .directories, letter := some 'd', word := some "directories", takes := .value },
    { meaning := .skippedFiles, word := some "exclude", takes := .value },
    { meaning := .skippedFrom, word := some "exclude-from", takes := .value },
    { meaning := .skippedDirectories, word := some "exclude-dir", takes := .value },
    { meaning := .patternFile, letter := some 'f', word := some "file", takes := .value },
    { meaning := .matchedFiles, letter := some 'l', word := some "files-with-matches" },
    { meaning := .unmatchedFiles, letter := some 'L', word := some "files-without-match" },
    { meaning := .separator, word := some "group-separator", takes := .value },
    { meaning := .about, word := some "help" },
    { meaning := .onlyFiles, word := some "include", takes := .value },
    { meaning := .ignoreCase, letter := some 'i', word := some "ignore-case" },
    { meaning := .heedCase, word := some "no-ignore-case" },
    { meaning := .initialTab, letter := some 'T', word := some "initial-tab" },
    { meaning := .label, word := some "label", takes := .value },
    { meaning := .idle, word := some "line-buffered" },
    { meaning := .number, letter := some 'n', word := some "line-number" },
    { meaning := .line, letter := some 'x', word := some "line-regexp" },
    { meaning := .maxCount, letter := some 'm', word := some "max-count", takes := .value },
    { meaning := .withoutName, letter := some 'h', word := some "no-filename" },
    { meaning := .noSeparator, word := some "no-group-separator" },
    { meaning := .silent, letter := some 's', word := some "no-messages" },
    { meaning := .nulNames, letter := some 'Z', word := some "null" },
    { meaning := .nulLines, letter := some 'z', word := some "null-data" },
    { meaning := .onlyMatching, letter := some 'o', word := some "only-matching" },
    { meaning := .quiet, letter := some 'q', word := some "quiet" },
    { meaning := .recursive, letter := some 'r', word := some "recursive" },
    { meaning := .recursive, letter := some 'R', word := some "dereference-recursive" },
    { meaning := .pattern, letter := some 'e', word := some "regexp", takes := .value },
    { meaning := .invert, letter := some 'v', word := some "invert-match" },
    { meaning := .quiet, word := some "silent" },
    { meaning := .text, letter := some 'a', word := some "text" },
    { meaning := .obsolete, letter := some 'u', word := some "unix-byte-offsets" },
    { meaning := .about, letter := some 'V', word := some "version" },
    { meaning := .withName, letter := some 'H', word := some "with-filename" },
    { meaning := .word, letter := some 'w', word := some "word-regexp" },
    { meaning := .ignoreCase, letter := some 'y' },
    { meaning := .withoutBinary, letter := some 'I' },
    { meaning := .matcher, letter := some 'X', takes := .value }] ++
  (List.range 10).map fun d =>
    { meaning := .digit d, letter := some (Char.ofNat ('0'.toNat + d)) }

/-! ## Selecting lines -/

/-- How patterns are spelled. -/
inductive Spelling where
  | fixed
  | regular (isExtended : Bool)
  deriving DecidableEq

/-- What part of a line a pattern has to match. -/
inductive Extent where
  | anywhere
  | word
  | line
  deriving DecidableEq

/-- Which lines are selected. -/
structure Selector where
  patterns : List Pattern
  mode : Pattern.Mode
  extent : Extent
  isInverted : Bool

namespace Selector

/-- A match is as far as it has to be. -/
def accepts (extent : Extent) (found : Pattern.Match) : Bool :=
  match extent with
  | .anywhere => true
  | .line => found.start.previous.isNone && found.stop.rest.isEmpty
  | .word =>
    !Pattern.Cursor.isInWord found.start.previous &&
      !Pattern.Cursor.isInWord found.stop.rest.head?

/-- The first of two matches, and the longer one if they begin at the same place. -/
def first (a b : Pattern.Match) : Pattern.Match :=
  if b.start.position < a.start.position then b
  else if b.start.position = a.start.position && a.stop.position < b.stop.position then b
  else a

/-- The first match from a place of a line on. -/
def find? (s : Selector) (cursor : Pattern.Cursor) : Option Pattern.Match :=
  (s.patterns.filterMap fun p => p.findThat? s.mode (accepts s.extent) cursor).foldl
    (fun best found => some (best.elim found (first · found))) none

/-- The line is selected. -/
def selects (s : Selector) (line : List Char) : Bool :=
  (s.find? (.start line)).isSome != s.isInverted

/-- The parts of a line from a place on that are matched and not empty, with their places. -/
def partsFrom (s : Selector) : (fuel : Nat) → Pattern.Cursor → List (Nat × List Char)
  | 0, _ => []
  | fuel + 1, cursor =>
    match s.find? cursor with
    | none => []
    | some found =>
      if found.isEmpty then
        -- The search goes on behind the next character, or it would find the same again.
        match found.stop.next? with
        | some (_, next) => partsFrom s fuel next
        | none => []
      else (found.start.position, found.text) :: partsFrom s fuel found.stop

/-- The parts of a line that are matched and not empty, with their places. -/
def parts (s : Selector) (line : List Char) : List (Nat × List Char) :=
  if s.isInverted then [] else s.partsFrom (line.length + 1) (.start line)

end Selector

/-! ## Layout -/

/-- What is told about a file. -/
inductive Style where
  | lines
  | count
  | matchedFiles
  | unmatchedFiles
  deriving DecidableEq

/-- How the result is laid out. -/
structure Layout where
  style : Style
  isQuiet : Bool
  onlyMatching : Bool
  showsName : Bool
  showsNumber : Bool
  showsOffset : Bool
  /-- Lines are ended by a NUL character and not by a line feed. -/
  hasNulLines : Bool
  hasNulNames : Bool
  hasTab : Bool
  /-- The least width of numbers in front of a tab. -/
  numberWidth : Nat := 0
  before : Nat
  after : Nat
  /-- What stands between groups of lines that are not neighbours, if anything does. -/
  separator : Option (List Char)
  maxCount : Option Nat
  /-- A file with NUL characters is treated like any other. -/
  showsBinary : Bool
  /-- In a file with NUL characters nothing is found. -/
  skipsBinary : Bool

namespace Layout

/-- What ends a line. -/
def lineEnd (layout : Layout) : Char := if layout.hasNulLines then Char.ofNat 0 else '\n'

/-- The lines of a text. -/
def linesOf (layout : Layout) (text : List Char) : List (List Char) :=
  let parts := Text.splitAt layout.lineEnd text
  if parts.getLast? = some [] then parts.dropLast else parts

/-- The name of a file and the mark after it. -/
def nameAnd (layout : Layout) (file : List Char) (mark : List Char) : List Char :=
  file ++ (if layout.hasNulNames then [Char.ofNat 0] else mark)

/-- A number, filled up with blanks in front. -/
def numberText (layout : Layout) (n : Nat) : List Char :=
  let digits := Text.ofNat n
  List.replicate (layout.numberWidth - digits.length) ' ' ++ digits

/-- The layout with numbers before tabs as wide as those of a file of some size may be. The size of
what is typed in is not known. -/
def widened (layout : Layout) (size : Option Nat) : Layout :=
  let greatest := size.getD greatestSize + (if layout.showsNumber then 1 else 0)
  if layout.hasTab then { layout with numberWidth := (Text.ofNat greatest).length } else layout
where
  /-- No file is larger. -/
  greatestSize : Nat := 0x7FFFFFFFFFFFFFFF

/-- A line, or a part of one, with what stands in front of it. -/
def withMargin (layout : Layout) (file : List Char) (number offset : Nat) (mark : Char)
    (text : List Char) : List Char :=
  let parts :=
    (if layout.showsName then layout.nameAnd file [mark] else []) ++
    (if layout.showsNumber then layout.numberText number ++ [mark] else []) ++
    (if layout.showsOffset then layout.numberText offset ++ [mark] else [])
  let tab := if layout.hasTab && !parts.isEmpty && !text.isEmpty then ['\t'] else []
  parts ++ tab ++ text ++ [layout.lineEnd]

end Layout

/-- A line of a file. -/
structure Line where
  /-- The place of the line in its file, counted from one. -/
  number : Nat
  /-- The number of bytes in front. -/
  offset : Nat
  text : List Char
  isSelected : Bool

/-- Marks the lines that are selected; after the greatest number of them there are no more. -/
def mark (selector : Selector) (room : Option Nat) (number offset : Nat) :
    List (List Char) → List Line
  | [] => []
  | text :: rest =>
    let isSelected := room != some 0 && selector.selects text
    let room := if isSelected then room.map (· - 1) else room
    ⟨number, offset, text, isSelected⟩ ::
      mark selector room (number + 1) (offset + text.length + 1) rest

/-- What was printed so far. -/
structure Printed where
  text : List Char := []
  /-- Some lines were printed of this file or of another one. -/
  hasLines : Bool := false

/-- Prints the selected lines of a file, and those around them. `owed` lines more belong to what was
selected last, and `isJoined` says that the line before was printed. -/
def printLines (selector : Selector) (layout : Layout) (file : List Char) :
    (owed : Nat) → (isJoined : Bool) → Printed → List Line → Printed
  | _, _, printed, [] => printed
  | owed, isJoined, printed, line :: rest =>
    let isNear := (line :: rest).take (layout.before + 1) |>.any (·.isSelected)
    if line.isSelected || owed > 0 || isNear then
      let ended (mark : Char) (offset : Nat) (text : List Char) : List Char :=
        layout.withMargin file line.number offset mark text
      let gap :=
        if !isJoined && printed.hasLines then (layout.separator.map (· ++ ['\n'])).getD [] else []
      let shown :=
        if layout.onlyMatching then
          if line.isSelected then
            (selector.parts line.text).flatMap fun (place, part) =>
              ended ':' (line.offset + place) part
          else []
        else ended (if line.isSelected then ':' else '-') line.offset line.text
      printLines selector layout file (if line.isSelected then layout.after else owed - 1) true
        { text := printed.text ++ gap ++ shown, hasLines := true } rest
    else printLines selector layout file 0 false printed rest

/-- Tells about a file, or about what is typed in. -/
def tellFile (program : String) (selector : Selector) (layout : Layout) (file : String)
    (isTyped : Bool) (text : List Char) (printed : Printed) : Printed × Bool :=
  let layout := layout.widened (if isTyped then none else some text.length)
  let isBinary := text.contains (Char.ofNat 0) && !layout.hasNulLines && !layout.showsBinary
  let room := if isBinary && layout.skipsBinary then some 0 else layout.maxCount
  let lines := mark selector room 1 0 (layout.linesOf text)
  let count := (lines.filter (·.isSelected)).length
  let isFound := count > 0
  let name := Text.octets file.toList
  let add (shown : List Char) : Printed := { printed with text := printed.text ++ shown }
  let result :=
    if layout.isQuiet then printed
    else
      match layout.style with
      | .count =>
        add ((if layout.showsName then layout.nameAnd name [':'] else []) ++
          Text.ofNat count ++ ['\n'])
      | .matchedFiles => if isFound then add (layout.nameAnd name ['\n']) else printed
      | .unmatchedFiles => if isFound then printed else add (layout.nameAnd name ['\n'])
      | .lines =>
        if isFound && isBinary then
          add (Text.octets (program ++ ": " ++ file ++ ": binary file matches\n").toList)
        else printLines selector layout name 0 false printed lines
  (result, isFound)

/-! ## Reading what is given -/

/-- The number that a text is, if it is one. -/
def number? (text : String) : Option Nat :=
  let digits := text.toList
  if Text.isNumeral digits then some (Text.decimalValue digits) else none

/-- Why a search cannot begin. -/
inductive CallError where
  | flag (error : FlagError)
  | noPatterns
  | patterns (errors : List PatternError)
  | unreadable (file : String) (cause : SystemError)
  | maxCount
  | context (text : String)
  | conflict
  | matcher (name : String)
  | binaryFiles
  | directories (message : String)
  | devices
  deriving DecidableEq

/-- How the program is called, for those who called it in another way. -/
def usage (name : String) : String :=
  "Usage: " ++ name ++ " [OPTION]... PATTERNS [FILE]...\n" ++
  "Try '" ++ name ++ " --help' for more information.\n"

/-- The error in words. -/
def CallError.text (name : String) : CallError → String
  | flag error => name ++ ": " ++ error.message ++ "\n" ++ usage name
  | noPatterns => usage name
  | patterns errors => String.join (errors.map fun e => name ++ ": " ++ e.message ++ "\n")
  | unreadable file cause => name ++ ": " ++ file ++ ": " ++ cause.words ++ "\n"
  | maxCount => name ++ ": invalid max count\n"
  | context text => name ++ ": " ++ text ++ ": invalid context length argument\n"
  | conflict => name ++ ": conflicting matchers specified\n"
  | matcher text => name ++ ": invalid matcher " ++ text ++ "\n"
  | binaryFiles => name ++ ": unknown binary-files type\n"
  | directories message => name ++ ": " ++ message ++ "\n" ++ usage name
  | devices => name ++ ": unknown devices method\n"

/-- The exit status that an error leads to. -/
def CallError.status : CallError → Nat
  | directories _ => 1
  | _ => 2

/-! ## Checking what is given -/

/-- The kinds of patterns by their names. -/
def matcherNames : List String := ["grep", "egrep", "fgrep", "awk", "gawk", "posixawk", "perl"]

/-- The kind of patterns that a flag asks for. -/
def matcher? (meaning : Meaning) (value : String) : Option String :=
  match meaning with
  | .basic => some "grep"
  | .extended => some "egrep"
  | .fixed => some "fgrep"
  | .perl => some "perl"
  | .matcher => some value
  | _ => none

/-- The text is a number that may be negative. -/
def isLimit (text : String) : Bool :=
  (number? text).isSome ||
    (match text.toList with
      | '-' :: digits => Text.isNumeral digits
      | _ => false)

/-- The words for what to do about binary files. -/
def binaryWords : List String := ["binary", "text", "without-match"]

/-- What to do about a directory. -/
inductive OnDirectory where
  | complain
  | skip
  | enter
  deriving DecidableEq

/-- The words for what to do about directories. -/
def directoryWords : List (String × OnDirectory) :=
  [("read", .complain), ("recurse", .enter), ("skip", .skip)]

/-- What is wrong with the value of a flag. -/
def valueError? (meaning : Meaning) (value : String) : Option CallError :=
  let require (holds : Bool) (error : CallError) : Option CallError :=
    if holds then none else some error
  match meaning with
  | .before | .after | .around => require (number? value).isSome (.context value)
  | .maxCount => require (isLimit value) .maxCount
  | .binaryFiles => require (binaryWords.contains value) .binaryFiles
  | .directories =>
    match choose directoryWords value with
    | .ok _ => none
    | .error e => some (.directories (e.message directoryWords "directories" value))
  | .devices => require (["read", "skip"].contains value) .devices
  | _ => none

/-- Two flags ask for different kinds of patterns, or one asks for an unknown kind. `chosen` is the
kind that flags have asked for so far. -/
def matcherError? (chosen : Option String) (name : String) : Option CallError :=
  if !matcherNames.contains name then some (.matcher name)
  else if chosen.any (· ≠ name) then some .conflict
  else none

/-! ## Describing a search -/

/-- A context length that digits on the command line spell. -/
def digitContext (given : Given Meaning) : Option Nat :=
  let digits := given.flags.filterMap fun
    | (.digit d, _) => some d
    | _ => none
  if digits.isEmpty then none else some (digits.foldl (fun n d => 10 * n + d) 0)

/-- The last value of a flag as a number. -/
def lastNumber? (given : Given Meaning) (meaning : Meaning) : Option Nat :=
  (given.values meaning).getLast?.bind number?

/-- The layout that flags describe. -/
def layout (given : Given Meaning) (operands : Nat) : Layout :=
  let around := lastNumber? given .around <|> digitContext given
  let style := match given.lastOf? [.matchedFiles, .unmatchedFiles] with
    | some .matchedFiles => Style.matchedFiles
    | some _ => .unmatchedFiles
    | none => if given.has .count then .count else .lines
  let showsName := match given.lastOf? [.withName, .withoutName] with
    | some meaning => meaning = .withName
    | none => operands > 1
  let separator := match given.lastOf? [.separator, .noSeparator] with
    | some .noSeparator => none
    | some _ => (given.values .separator).getLast?.map fun text => Text.octets text.toList
    | none => some ['-', '-']
  let hasContext := given.has .before || given.has .after || around.isSome
  let binary := given.flags.reverse.findSome? fun
    | (.text, _) => some "text"
    | (.withoutBinary, _) => some "without-match"
    | (.binaryFiles, value) => value
    | _ => none
  { style
    isQuiet := given.has .quiet
    onlyMatching := given.has .onlyMatching
    showsName
    showsNumber := given.has .number
    showsOffset := given.has .offset
    hasNulLines := given.has .nulLines
    hasNulNames := given.has .nulNames
    hasTab := given.has .initialTab
    before := (lastNumber? given .before <|> around).getD 0
    after := (lastNumber? given .after <|> around).getD 0
    separator := if hasContext then separator else none
    maxCount := lastNumber? given .maxCount
    showsBinary := binary = some "text"
    skipsBinary := binary = some "without-match" }

/-- How patterns of a kind are spelled. Those of the richer kinds are read as extended ones. -/
def spelling (matcher : Option String) : Spelling :=
  match matcher with
  | some "fgrep" => .fixed
  | some "grep" | none => .regular false
  | some _ => .regular true

/-- What part of a line a pattern has to match. -/
def extent (given : Given Meaning) : Extent :=
  if given.has .line then .line else if given.has .word then .word else .anywhere

/-- No line can be selected, whatever the files hold: there are no patterns, or empty ones that must
not be found. -/
def isHopeless (given : Given Meaning) (texts : List (List Char)) : Bool :=
  if texts.isEmpty then !given.has .invert
  else texts.all (·.isEmpty) && given.has .invert && extent given = .anywhere

/-- Pairs what could be read with the errors in the rest. -/
def partition {α β ε : Type} (read : α → Except ε β) (items : List α) : List β × List ε :=
  (items.filterMap fun i => (read i).toOption,
    items.filterMap fun i => match read i with
      | .ok _ => none
      | .error e => some e)

/-- Letters match those of the other case. -/
def ignoresCase (given : Given Meaning) : Bool :=
  given.lastOf? [.ignoreCase, .heedCase] = some .ignoreCase

/-- The readings of some patterns, or what is wrong with them. -/
def readings (given : Given Meaning) (spelling : Spelling) (texts : List (List Char)) :
    Except CallError (List Pattern.Reading) :=
  let read (text : List Char) : Except PatternError Pattern.Reading :=
    match spelling with
    | .fixed =>
      .ok { pattern := Pattern.ofText text, groups := 0, hasNakedKind := false, skipped := [] }
    | .regular isExtended => Pattern.read { isExtended, ignoresCase := ignoresCase given } text
  let (readings, errors) := partition read texts.eraseDups
  if errors.isEmpty then .ok readings else .error (.patterns errors)

/-- The readings up to the first with the name of a kind without the second pair of brackets. -/
def upToNakedKind : List Pattern.Reading → List Pattern.Reading
  | [] => []
  | reading :: rest =>
    if reading.hasNakedKind then [reading] else reading :: upToNakedKind rest

/-- The selector that flags and patterns describe. -/
def selector (given : Given Meaning) (readings : List Pattern.Reading) : Selector :=
  { patterns := readings.map (·.pattern)
    mode := { ignoresCase := ignoresCase given }
    extent := extent given
    isInverted := given.has .invert }

/-! ## Running -/

/-- What a search has come to. -/
structure State where
  printed : Printed := {}
  isFound : Bool := false
  isFaulty : Bool := false

/-- A search that is ready to begin. -/
structure Plan where
  name : String
  selector : Selector
  layout : Layout
  onDirectory : OnDirectory
  isSilent : Bool
  /-- The names of files are shown where a directory is entered. -/
  namesInDirectories : Bool
  /-- The name for what is typed in. -/
  inputName : String
  /-- The working directory is searched without being asked for, and its name is not shown. -/
  isHere : Bool
  /-- The last names of the files and directories that are searched. -/
  wantsFile : String → Bool
  wantsDirectory : String → Bool

/-- The working directory. -/
def here : String := "."

/-- The name that a file is shown by. -/
def Plan.shown (plan : Plan) (file : String) : String :=
  match plan.isHere, file.toList with
  | true, '.' :: '/' :: c :: rest => String.ofList (c :: rest)
  | _, _ => file

variable {m : Type → Type} [Monad m]

/-- A file that cannot be read makes the search faulty. -/
def fail (system : SystemCalls m) (plan : Plan) (state : State) (file : String)
    (cause : SystemError) : m State := do
  unless plan.isSilent do complain system plan.name (plan.shown file ++ ": " ++ cause.words)
  return { state with isFaulty := true }

/-- The search has found all that it looks for. -/
def State.isDone (state : State) (plan : Plan) : Bool := plan.layout.isQuiet && state.isFound

/-- The last name of a file says that it is searched. One that cannot be found is searched for. -/
def isWanted (system : SystemCalls m) (plan : Plan) (file : String) : m Bool := do
  let name := (Path.names file.toList).getLast?.getD file
  match ← system.status file with
  | .ok status =>
    return if status.isDirectory then plan.wantsDirectory name else plan.wantsFile name
  | .error _ => return true

/-- Searches a text that is shown under a name. -/
def searchText (plan : Plan) (state : State) (name : String) (isTyped : Bool) (text : String) :
    State :=
  let octets := Text.octets text.toList
  let (printed, isFound) :=
    tellFile plan.name plan.selector plan.layout (plan.shown name) isTyped octets state.printed
  { state with printed, isFound := state.isFound || isFound }

/-- Searches a file, or what is in a directory. -/
def search (system : SystemCalls m) (plan : Plan) : (depth : Nat) → State → String → m State
  | 0, state, _ => return state
  | depth + 1, state, file => do
    if state.isDone plan then return state
    match ← system.readFile file with
    | .ok text => return searchText plan state file false text
    | .error .isADirectory =>
      match plan.onDirectory with
      | .complain =>
        -- Beside the complaint a directory counts as an empty file.
        let state ← fail system plan state file .isADirectory
        return searchText plan state file false ""
      | .skip => return state
      | .enter =>
        let entries := (← system.entries file).toOption.getD []
        let plan :=
          if plan.namesInDirectories then { plan with layout.showsName := true } else plan
        entries.foldlM (fun state entry => do
          let path := Path.join file entry
          if ← isWanted system plan path then search system plan depth state path
          else return state) state
    | .error e => fail system plan state file e

/-- The operand that stands for what is typed in. -/
def inputOperand : String := "-"

/-- Searches what an operand names. -/
def searchOperand (system : SystemCalls m) (plan : Plan) (state : State) (operand : String) :
    m State := do
  if operand = inputOperand then
    if state.isDone plan then return state
    let text := (← system.readFile inputPath).toOption.getD ""
    return searchText plan state plan.inputName true text
  else if ← isWanted system plan operand then search system plan Path.maxPathBytes state operand
  else return state

/-! ## Planning -/

/-- The text matches a pattern of a shell, of which stars and question marks are known. -/
def matchesGlob : List Char → List Char → Bool
  | [], s => s.isEmpty
  | '*' :: p, s => (List.range (s.length + 1)).any fun n => matchesGlob p (s.drop n)
  | '?' :: p, _ :: s => matchesGlob p s
  | c :: p, d :: s => c = d && matchesGlob p s
  | _ :: _, [] => false

/-- What flags say about a name: patterns that the name has to be like, or not to be like. The last
pattern that fits decides, and if none does the first one. -/
def wants (patterns : List (Bool × String)) (name : String) : Bool :=
  let fits (pattern : Bool × String) : Bool := matchesGlob pattern.2.toList name.toList
  match patterns.reverse.find? fits, patterns with
  | some (isIncluded, _), _ => isIncluded
  | none, (isIncluded, _) :: _ => !isIncluded
  | none, [] => true

/-- What was read of the flags. -/
structure Setup where
  /-- The kind of patterns that was asked for. -/
  matcher : Option String := none
  /-- The texts of patterns, if there are any. -/
  texts : Option (List (List Char)) := none
  /-- Patterns for the names of files. -/
  files : List (Bool × String) := []

/-- Adds the texts of patterns. -/
def Setup.add (setup : Setup) (texts : List (List Char)) : Setup :=
  { setup with texts := some (setup.texts.getD [] ++ texts) }

/-- The lines of a text of octets. -/
def lines (text : String) : List (List Char) := Text.splitAt '\n' (Text.octets text.toList)

/-- The lines of a file; the end of the last one begins none. -/
def fileLines (text : String) : List (List Char) :=
  let lines := lines text
  if lines.getLast? = some [] then lines.dropLast else lines

/-- Reads a file that a flag names. -/
def readGiven (system : SystemCalls m) (file : String) :
    ExceptT CallError m (List (List Char)) := do
  match ← ExceptT.lift (system.readFile (if file = inputOperand then inputPath else file)) with
  | .ok text => return fileLines text
  | .error cause => throw (.unreadable file cause)

/-- Takes a flag. -/
def takeFlag (system : SystemCalls m) (name : String) (setup : Setup)
    (flag : Meaning × Option String) : ExceptT CallError m Setup := do
  let (meaning, value) := flag
  let value := value.getD ""
  if let some error := valueError? meaning value then throw error
  if let some matcher := matcher? meaning value then
    if let some error := matcherError? setup.matcher matcher then throw error
    return { setup with matcher := some matcher }
  match meaning with
  | .pattern => return setup.add (lines value)
  | .patternFile => return setup.add (← readGiven system value)
  | .onlyFiles => return { setup with files := setup.files ++ [(true, value)] }
  | .skippedFiles => return { setup with files := setup.files ++ [(false, value)] }
  | .skippedFrom =>
    let patterns ← readGiven system value
    return { setup with files := setup.files ++ patterns.map fun p => (false, String.ofList p) }
  | .obsolete =>
    ExceptT.lift (complain system name "warning: --unix-byte-offsets (-u) is obsolete")
    return setup
  | _ => return setup

/-- What to do about directories. -/
def onDirectory (given : Given Meaning) : OnDirectory :=
  match given.flags.reverse.find? fun (m, _) => m = .recursive || m = .directories with
  | some (.recursive, _) => .enter
  | some (_, some word) => (choose directoryWords word).toOption.getD .complain
  | _ => .complain

/-- The words for when matches are shown in colors. -/
def colorWords : List String :=
  ["always", "yes", "force", "never", "no", "none", "auto", "tty", "if-tty"]

/-- The user asks for help, or has to be helped. -/
def isAboutProgram (given : Given Meaning) : Bool :=
  given.has .about || (given.values .color).any (!colorWords.contains ·)

/-- What the program is asked for. -/
inductive Request where
  /-- The user is helped. -/
  | help
  /-- A search that cannot find anything. -/
  | nothing
  /-- A search in files. -/
  | search (plan : Plan) (files : List String)

/-- The readings of patterns. The user is warned of repetitions that are passed over. -/
def readPatterns (system : SystemCalls m) (name : String) (given : Given Meaning)
    (spelling : Spelling) (texts : List (List Char)) :
    ExceptT CallError m (List Pattern.Reading) := do
  let readings ← ExceptT.mk (pure (readings given spelling texts))
  for reading in upToNakedKind readings do
    for text in reading.skipped do
      ExceptT.lift (complain system name ("warning: " ++ text ++ " at start of expression"))
  if readings.any (·.hasNakedKind) then throw (.patterns [.nakedKind])
  return readings

/-- The request that arguments spell. -/
def request (system : SystemCalls m) (name : String) (arguments : List String) :
    ExceptT CallError m Request := do
  let given := Flag.scan flags arguments
  let setup ← given.flags.foldlM (takeFlag system name) {}
  if let some error := given.error then throw (.flag error)
  if isAboutProgram given then return .help
  let (texts, files) ← match setup.texts, given.operands with
    | some texts, files => pure (texts, files)
    | none, text :: files => pure (lines text, files)
    | none, [] => throw .noPatterns
  let layout := layout given files.length
  if layout.style != .unmatchedFiles && (layout.maxCount = some 0 || isHopeless given texts) then
    return .nothing
  let readings ← readPatterns system name given (spelling setup.matcher) texts
  let plan : Plan :=
    { name
      selector := selector given readings
      layout
      onDirectory := onDirectory given
      isSilent := given.has .silent
      namesInDirectories := (given.lastOf? [.withName, .withoutName]).isNone
      isHere := files.isEmpty && onDirectory given = .enter
      inputName := (given.values .label).getLast?.getD "(standard input)"
      wantsFile := wants setup.files
      wantsDirectory := wants ((given.values .skippedDirectories).map (false, ·)) }
  let files :=
    if !files.isEmpty then files
    else [if plan.onDirectory = .enter then here else inputOperand]
  return .search plan files

/-- Runs the program and tells the exit status. -/
def run (system : SystemCalls m) (name : String) (arguments : List String) : m Nat := do
  match ← (request system name arguments).run with
  | .error e =>
    system.tell (e.text name)
    return e.status
  | .ok .help => return 0
  | .ok .nothing => return 1
  | .ok (.search plan files) =>
    let state ← files.foldlM (searchOperand system plan) {}
    unless state.printed.text.isEmpty do
      let _ ← system.print (String.ofList (Text.ofOctets state.printed.text))
    return if state.isDone plan then 0
      else if state.isFaulty then 2
      else if state.isFound then 0
      else 1

end WideColumn.Formatter.Search
