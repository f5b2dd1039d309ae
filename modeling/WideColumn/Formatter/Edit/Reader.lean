import WideColumn.Formatter.Edit.Basic
import WideColumn.Formatter.Edit.Escape
import WideColumn.Formatter.Edit.Fault
import WideColumn.Pattern.Reader
import WideColumn.Text.Split
import WideColumn.Text.Utf8

/-!
# Reading edit scripts

A script is read piece by piece, character by character. A command is one letter, with a selection
in front of it and what the command needs after it, up to a semicolon or the end of the line; a text
that is printed goes on to the end of the line, and further if a backslash stands there. A piece may
end in the middle of such a text or of a block, and the next piece goes on with it.

What is wrong is found at a place, so reading keeps what it has come to: the rest of the piece, and
the files that the commands write to, which are made when their names are read.

Main definitions: `Edit.Dialect`, `Edit.Draft`, `Edit.Draft.read`, `Edit.Draft.finish`.
-/

namespace WideColumn.Formatter.Edit

/-- A way to spell scripts. -/
structure Dialect where
  /-- Patterns are spelled in the extended syntax. -/
  isExtended : Bool := false
  /-- Only what every such program understands is accepted. -/
  isPortable : Bool := false
  /-- Commands do not reach beyond the files that are edited. -/
  isSandboxed : Bool := false
  deriving DecidableEq

/-- A command whose text is not complete. -/
structure OpenText where
  selection : Selection
  action : List Char → Action
  /-- The text so far, with escapes. -/
  text : List Char

/-- What was read of a script. -/
structure Draft where
  dialect : Dialect := {}
  origin : Origin := .argument 0
  /-- The piece that is being read. -/
  piece : List Char := []
  /-- What is left of it. -/
  rest : List Char := []
  /-- The commands, the last one first. -/
  commands : List Command := []
  openText : Option OpenText := none
  /-- The places where blocks began that are not closed, the innermost first. -/
  blocks : List Place := []
  /-- The files that are made, the last one first. -/
  files : List String := []
  /-- No piece was read before this one. -/
  isFirstPiece : Bool := true
  /-- The script says that lines are only printed by commands. -/
  isQuiet : Bool := false

/-- A step of reading: it goes on from a draft, or finds something wrong. -/
abbrev Reader := ExceptT Cause (StateM Draft)

namespace Draft

/-- The place that reading has come to. -/
def place (draft : Draft) : Place :=
  let passed := draft.piece.take (draft.piece.length - draft.rest.length)
  match draft.origin with
  | .argument _ => ⟨draft.origin, passed.length⟩
  | .file _ => ⟨draft.origin, passed.count '\n' + 1⟩

/-- Adds a command. -/
def push (draft : Draft) (selection : Selection) (action : Action) : Draft :=
  { draft with commands := ⟨draft.commands.length, selection, action⟩ :: draft.commands }

end Draft

namespace Reader

/-! ## Characters -/

/-- Takes the next character; none at the end of the piece. -/
def next : Reader (Option Char) := modifyGet fun draft =>
  match draft.rest with
  | [] => (none, draft)
  | c :: r => (some c, { draft with rest := r })

/-- Gives back a character that was taken. -/
def giveBack (c : Option Char) : Reader Unit :=
  modify fun draft => { draft with rest := c.toList ++ draft.rest }

/-- Takes the characters in front that a test accepts. -/
def takeWhile (accepts : Char → Bool) : Reader (List Char) := modifyGet fun draft =>
  (draft.rest.takeWhile accepts, { draft with rest := draft.rest.dropWhile accepts })

/-- The character separates words on a line. -/
def isSpace (c : Char) : Bool := c = ' ' || c = '\t'

/-- Takes the next character that is no space. -/
def nextWord : Reader (Option Char) := do
  let _ ← takeWhile isSpace
  next

/-- Takes what a command may end with. -/
def endCommand : Reader Unit := do
  let c ← nextWord
  if c = some '}' || c = some '#' then giveBack c
  else if c != none && c != some '\n' && c != some ';' then throw .extraCharacters

/-- Numbers are counted up to this one, which is zero again. -/
def numberLimit : Nat := 18446744073709551616

/-- Takes a number, of which the first digit was read if there is one. -/
def number (first : Option Char) : Reader Nat := do
  giveBack first
  return Text.decimalValue (← takeWhile Char.isDigit) % numberLimit

/-- Takes the name of a file, which goes on to the end of the line. -/
def fileName : Reader String := do
  giveBack (← nextWord)
  let name ← takeWhile (· ≠ '\n')
  let _ ← next
  if name.isEmpty then throw .missingFile
  return String.ofList (Text.ofOctets name)

/-- Takes the name of a file that is made. -/
def newFile : Reader String := do
  let name ← fileName
  modify fun draft => { draft with files := name :: draft.files }
  return name

/-- Takes a label. -/
def label : Reader (List Char) := do
  giveBack (← nextWord)
  takeWhile fun c => !CharKind.contains c .space && [';', '}', '#'].all (· ≠ c)

/-! ## Texts between delimiters -/

/-- How the characters between delimiters are read. -/
inductive Nesting where
  | outside
  /-- After the opening bracket of a list, where a caret may follow. -/
  | opened
  /-- At the first member of a list. -/
  | first
  | inside
  /-- In a name within a list, which the character and a bracket end. -/
  | name (delimiter : Char)
  /-- Before the bracket that ends a name. -/
  | nameEnd
  deriving DecidableEq

/-- The way to read on after a character of a pattern. -/
def Nesting.after (nesting : Nesting) (c : Char) (rest : List Char) : Nesting :=
  let member : Nesting :=
    match c, rest with
    | '[', d :: _ => if d = '.' || d = ':' || d = '=' then .name d else .inside
    | _, _ => .inside
  match nesting with
  | .outside => if c = '[' then .opened else .outside
  | .opened => if c = '^' then .first else member
  | .first => member
  | .inside => if c = ']' then .outside else member
  | .name delimiter =>
    if c = delimiter && rest.head? == some ']' then .nameEnd else .name delimiter
  | .nameEnd => .inside

/-- The text up to a delimiter, and what follows it; or what is left if there is no delimiter on the
line. In a pattern the delimiter is not looked for within lists of characters, and the name of the
line feed stands for it, but not after a `c` that makes a control character of what follows. -/
def upTo (delimiter : Char) (isPattern : Bool) :
    Nesting → List Char → Except (List Char) (List Char × List Char)
  | _, [] => .error []
  | nesting, c :: r =>
    let add (s : List Char) :
        Except (List Char) (List Char × List Char) → Except (List Char) (List Char × List Char) :=
      Except.map fun (text, rest) => (s ++ text, rest)
    if c = '\n' then .error (c :: r)
    else if nesting ≠ .outside then
      match c, r with
      | '\\', 'c' :: '\\' :: 'n' :: r =>
        add ['\\', 'c', '\\', 'n'] (upTo delimiter isPattern .inside r)
      | '\\', 'n' :: r => add ['\n'] (upTo delimiter isPattern .inside r)
      | c, r => add [c] (upTo delimiter isPattern (nesting.after c r) r)
    else if c = delimiter then .ok ([], r)
    else if c = '\\' then
      match r with
      | [] => .error []
      | 'c' :: '\\' :: 'n' :: r =>
        if isPattern && delimiter ≠ 'c' && delimiter ≠ 'n' then
          add ['\\', 'c', '\\', 'n'] (upTo delimiter isPattern .outside r)
        else
          add (if delimiter = 'c' then ['c'] else ['\\', 'c'])
            (upTo delimiter isPattern .outside ('\\' :: 'n' :: r))
      | d :: r =>
        let kept :=
          if d = delimiter then (if !isPattern && d = '&' then ['\\', d] else [d])
          else if d = 'n' && isPattern then ['\n']
          else if d = '\n' then [d]
          else ['\\', d]
        add kept (upTo delimiter isPattern .outside r)
    else add [c] (upTo delimiter isPattern (if isPattern then nesting.after c r else .outside) r)

/-- Takes the text up to a delimiter. -/
def delimited (delimiter : Option Char) (isPattern : Bool) (missing : Cause) :
    Reader (List Char) := do
  let draft ← get
  match delimiter with
  | none => throw missing
  | some delimiter =>
    match upTo delimiter isPattern .outside draft.rest with
    | .ok (text, rest) =>
      set { draft with rest }
      return text
    | .error rest =>
      set { draft with rest }
      throw missing

/-- Puts characters in place of their names. -/
def unescape (use : Use) (text : List Char) : Reader (List Char) :=
  match unescape? use text with
  | some s => return s
  | none => throw .doubleEscape

/-- The pattern that a text spells. What takes the place of a match may refer to groups up to the
greatest one. -/
def target (text : List Char) (mode : Pattern.Mode) (greatestGroup : Nat) : Reader Target := do
  if text.isEmpty then
    if mode ≠ {} then throw .modifiedLatest
    return .latest
  let dialect : Pattern.Dialect :=
    { isExtended := (← get).dialect.isExtended, isStrict := true, ignoresCase := mode.ignoresCase }
  match Pattern.read dialect (← unescape .pattern text) with
  | .error e => throw (.pattern e)
  | .ok reading =>
    if reading.groups < greatestGroup then throw (.badReference greatestGroup)
    if reading.hasNakedKind then throw (.pattern .nakedKind)
    return .pattern reading.pattern mode

/-! ## Selections -/

/-- The letters after a pattern that say how it is meant, and what follows them. -/
def modifiers (isPortable : Bool) (mode : Pattern.Mode) : List Char → Pattern.Mode × List Char
  | [] => (mode, [])
  | c :: r =>
    if isSpace c then modifiers isPortable mode r
    else if isPortable then (mode, c :: r)
    else if c = 'I' then modifiers isPortable { mode with ignoresCase := true } r
    else if c = 'M' then modifiers isPortable { mode with isMultiline := true } r
    else (mode, c :: r)

/-- Takes a pattern up to a delimiter. -/
def matchingAddress (delimiter : Option Char) : Reader Address := do
  let text ← delimited delimiter true .openAddress
  let draft ← get
  let (mode, rest) := modifiers draft.dialect.isPortable {} draft.rest
  set { draft with rest }
  return .matching (← target text mode 0)

/-- Takes lines by number, of which the first digit was read. -/
def numberAddress (digit : Char) : Reader Address := do
  let first ← number (some digit)
  let c ← nextWord
  if c = some '~' && !(← get).dialect.isPortable then
    let step ← number (← nextWord)
    return if step = 0 then .line first else .stride first step
  else
    giveBack c
    return .line first

/-- Takes what may end a range, or begin one, of which the first character was read. -/
def rangeEnd? (c : Option Char) : Reader (Option RangeEnd) := do
  let isPortable := (← get).dialect.isPortable
  match c with
  | some '/' => return some (.address (← matchingAddress c))
  | some '\\' => return some (.address (← matchingAddress (← next)))
  | some '$' => return some (.address .lastLine)
  | some '+' =>
    if isPortable then return none else return some (.following (← number (← nextWord)))
  | some '~' =>
    if isPortable then return none else return some (.multiple (← number (← nextWord)))
  | some c => if c.isDigit then return some (.address (← numberAddress c)) else return none
  | none => return none

/-- Line zero is in front of the first one: a range that ends where a pattern matches may begin
there, and a file may be read there. -/
def mayBeginAtZero (isPortable : Bool) (last : Option RangeEnd) (letter : Option Char) : Bool :=
  match last with
  | none => letter = some 'r' && !isPortable
  | some (.address (.matching _)) => !isPortable
  | some _ => false

/-- Takes a selection, and the letter of the command. An address that would count from another one
names all lines if it counts none. -/
def selection (c : Option Char) : Reader (Selection × Option Char) := do
  let (found, c) ← match ← rangeEnd? c with
    | none => pure ({}, c)
    | some last => do
      let first ← match last with
        | .address first => pure first
        | .following 0 | .multiple 0 => pure (.stride 0 1)
        | _ => throw .badFirstAddress
      let c ← nextWord
      let (last, c) ←
        if c = some ',' then do
          match ← rangeEnd? (← nextWord) with
          | none => throw .unexpectedComma
          | some last => pure (some last, ← nextWord)
        else pure (none, c)
      if first = .line 0 && !mayBeginAtZero (← get).dialect.isPortable last c then
        throw .badLineZero
      pure (({ first := some first, last } : Selection), c)
  if c = some '!' then
    let c ← nextWord
    if c = some '!' then throw .repeatedNegation
    return ({ found with isNegated := true }, c)
  else return (found, c)

/-! ## What commands need -/

/-- What was read of a replacement. -/
structure Spelled where
  /-- The insertions, the last one first. -/
  insertions : List Insertion := []
  /-- The text after them, the last character first. -/
  text : List Char := []
  rule : CaseRule := {}
  /-- The rule for what comes after the next insertion. -/
  lasting : CaseRule := {}

/-- Ends the text before a group or a change of case. -/
def Spelled.close (spelled : Spelled) (group : Option Nat) : Spelled :=
  { insertions := ⟨spelled.text.reverse, group, spelled.rule⟩ :: spelled.insertions
    text := []
    rule := spelled.lasting
    lasting := spelled.lasting }

/-- Changes the case from here on. -/
def Spelled.spell (spelled : Spelled) (rule : CaseRule) : Spelled :=
  { spelled.close none with rule, lasting := rule }

/-- Changes the case of the next character. -/
def Spelled.spellNext (spelled : Spelled) (letterCase : LetterCase) : Spelled :=
  let closed := spelled.close none
  { closed with rule := { closed.rule with first := some letterCase }, lasting := closed.rule }

/-- Takes a character after a backslash, which may stand for a change of case. -/
def Spelled.escape (spelled : Spelled) (isPortable : Bool) (c : Char) : Spelled :=
  if c.isDigit then spelled.close (some (c.toNat - '0'.toNat))
  else
    let plain : Spelled := { spelled.close none with text := [c] }
    if isPortable then plain
    else match c with
      | 'L' => spelled.spell { all := some .lower }
      | 'U' => spelled.spell { all := some .upper }
      | 'E' => spelled.spell {}
      | 'l' => spelled.spellNext .lower
      | 'u' => spelled.spellNext .upper
      | _ => plain

/-- The insertions that the text of a replacement spells. -/
def insertions (isPortable : Bool) (spelled : Spelled) : List Char → List Insertion
  | [] => (if spelled.text.isEmpty then spelled else spelled.close none).insertions.reverse
  | ['\\'] => insertions isPortable { spelled with text := '\\' :: spelled.text } []
  | '\\' :: c :: r => insertions isPortable (spelled.escape isPortable c) r
  | '&' :: r => insertions isPortable (spelled.close (some 0)) r
  | c :: r => insertions isPortable { spelled with text := c :: spelled.text } r

/-- The options of a substitution. -/
structure Options where
  mode : Pattern.Mode := {}
  number : Option Nat := none
  isGlobal : Bool := false
  prints : Bool := false
  runs : Bool := false
  printsBeforeRun : Bool := false
  output : Option String := none

/-- Takes the options of a substitution. -/
def options : (fuel : Nat) → Options → Reader Options
  | 0, found => return found
  | fuel + 1, found => do
    let isPortable := (← get).dialect.isPortable
    let c ← next
    match c with
    | none | some '\n' | some ';' => return found
    | some '}' | some '#' =>
      giveBack c
      return found
    | some 'p' =>
      if found.prints then throw .repeatedPrint
      options fuel { found with prints := true, printsBeforeRun := !found.runs }
    | some 'g' =>
      if found.isGlobal then throw .repeatedGlobal
      options fuel { found with isGlobal := true }
    | some 'e' => options fuel { found with runs := true }
    | some 'w' =>
      if (← get).dialect.isSandboxed then throw .sandboxed
      return { found with output := some (← newFile) }
    | some c =>
      if isSpace c then options fuel found
      else if c.isDigit then
        if found.number.isSome then throw .repeatedNumber
        let number ← number (some c)
        if number = 0 then throw .numberZero
        options fuel { found with number := some number }
      else if (c = 'i' || c = 'I') && !isPortable then
        options fuel { found with mode := { found.mode with ignoresCase := true } }
      else if (c = 'm' || c = 'M') && !isPortable then
        options fuel { found with mode := { found.mode with isMultiline := true } }
      else throw .unknownOption

/-- Takes a substitution after its letter. -/
def substitution : Reader Substitution := do
  let delimiter ← next
  let text ← delimited delimiter true .openSubstitution
  let replacement ← delimited delimiter false .openSubstitution
  let isPortable := (← get).dialect.isPortable
  let insertions := insertions isPortable {} (← unescape .replacement replacement)
  let options ← options ((← get).rest.length + 1) {}
  let greatest := if isPortable then 0 else greatestGroup insertions
  let target ← target text options.mode greatest
  if options.runs && (← get).dialect.isSandboxed then throw .sandboxed
  return {
    target
    insertions
    greatestGroup := greatest
    number := options.number.getD 1
    isGlobal := options.isGlobal
    prints := options.prints
    runs := options.runs
    printsBeforeRun := options.printsBeforeRun
    output := options.output }

/-- The characters that a text spells in which a backslash only keeps the next one. -/
def plainChars : List Char → List Char
  | '\\' :: c :: r => c :: plainChars r
  | c :: r => c :: plainChars r
  | [] => []

/-- Takes the characters that are replaced and those that take their place. -/
def transliteration : Reader Action := do
  let delimiter ← next
  let old ← unescape .characters (← delimited delimiter false .openTransliteration)
  let new ← unescape .characters (← delimited delimiter false .openTransliteration)
  let (old, new) := (plainChars old, plainChars new)
  if old.length ≠ new.length then throw .unequalLengths
  endCommand
  return .transliterate (old.zip new)

/-- The text of a command up to the end of its line, what follows, and whether the text is complete.
A backslash keeps the character after it, which may end the line. -/
def lineText : List Char → List Char × List Char × Bool
  | [] => (['\n'], [], true)
  | ['\\'] => (['\n'], [], false)
  | '\n' :: r => (['\n'], r, true)
  | '\\' :: c :: r =>
    let (text, rest, isComplete) := lineText r
    ('\\' :: c :: text, rest, isComplete)
  | c :: r =>
    let (text, rest, isComplete) := lineText r
    (c :: text, rest, isComplete)

/-- Goes on with a text, and adds its command when the text is complete. -/
def continueText (openText : OpenText) : Reader Unit := do
  let draft ← get
  let (text, rest, isComplete) := lineText draft.rest
  let text := openText.text ++ text
  set { draft with rest, openText := if isComplete then none else some { openText with text } }
  if isComplete then
    let text ← unescape .text text
    modify (·.push openText.selection (openText.action text))

/-- Takes the text of a command. It begins on the next line after a backslash, or else on the same
one after spaces. -/
def textAction (selection : Selection) (action : List Char → Action) : Reader Unit := do
  let openText : OpenText := { selection, action, text := [] }
  let c ← nextWord
  match c with
  | none => throw .missingBackslash
  | some '\\' =>
    let d ← next
    match d with
    | none =>
      if (← get).dialect.isPortable then throw .incompleteCommand
      modify fun draft => { draft with openText := some openText }
    | some '\n' => continueText openText
    | d =>
      giveBack d
      continueText openText
  | c =>
    if (← get).dialect.isPortable then throw .missingBackslash
    giveBack c
    continueText openText

/-- Takes a number, if there is one, and the end of the command. -/
def numberAndEnd : Reader (Option Nat) := do
  let c ← nextWord
  let found ←
    if c.any Char.isDigit && !(← get).dialect.isPortable then some <$> number c
    else do
      giveBack c
      pure none
  endCommand
  return found

/-- The numbers between the dots of a version. -/
def versionParts (s : List Char) : List Nat := (Text.splitAt '.' s).map Text.decimalValue

/-- The version that scripts may ask for. -/
def version : List Nat := [4, 9]

/-- The first version is later than the second one. -/
def isLater : List Nat → List Nat → Bool
  | [], _ => false
  | _ :: _, [] => true
  | a :: r, b :: s => b < a || (a = b && isLater r s)

/-! ## Commands -/

/-- The letters of the commands that not every such program understands. -/
def extensionLetters : List Char := ['e', 'F', 'v', 'z', 'L', 'Q', 'T', 'R', 'W']

/-- The letters of the commands that are for one line only where nothing but what every such program
understands is accepted. -/
def oneLineLetters : List Char := ['a', 'i', 'l', '=', 'r']

/-- The commands that are a letter and nothing else. -/
def simpleActions : List (Char × Action) :=
  [('=', .printNumber), ('d', .delete), ('D', .deleteFirst), ('F', .printName), ('g', .get),
    ('G', .getMore), ('h', .hold), ('H', .holdMore), ('n', .next), ('N', .join), ('p', .print),
    ('P', .printFirst), ('x', .exchange), ('z', .clear)]

/-- Takes what follows the letter of a command, and adds the command. -/
def command (letter : Char) (selection : Selection) : Reader Unit := do
  let draft ← get
  let add (action : Action) : Reader Unit := modify (·.push selection action)
  let forbidInSandbox : Reader Unit :=
    if draft.dialect.isSandboxed then throw .sandboxed else pure ()
  if draft.dialect.isPortable then
    if extensionLetters.contains letter then throw (.unknownCommand letter)
    if oneLineLetters.contains letter && selection.last.isSome then throw .oneAddressOnly
  match letter with
  | '#' =>
    if selection.first.isSome then throw .addressOfComment
    let c ← next
    if c = some 'n' && draft.isFirstPiece && draft.piece.length = draft.rest.length + 1 then
      modify fun draft => { draft with isQuiet := true }
    giveBack c
    let _ ← takeWhile (· ≠ '\n')
    let _ ← next
  | 'v' =>
    let asked ← label
    if isLater (versionParts asked) version then throw .newerVersion
  | '{' =>
    modify fun draft => { draft with blocks := draft.place.start :: draft.blocks }
    add .beginBlock
  | '}' =>
    match draft.blocks with
    | [] => throw .excessClose
    | _ :: blocks =>
      if selection.first.isSome then throw .addressOfClose
      endCommand
      modify fun draft => { draft with blocks }
      add .endBlock
  | 'e' =>
    forbidInSandbox
    let c ← nextWord
    if c = none || c = some '\n' then add (.runShell none)
    else
      giveBack c
      textAction selection fun text => .runShell (some text)
  | 'a' => textAction selection .append
  | 'i' => textAction selection .insert
  | 'c' => textAction selection .change
  | ':' =>
    if selection.first.isSome then throw .addressOfLabel
    let name ← label
    if name.isEmpty then throw .missingLabel
    add (.label name)
  | 'b' => add (.jump .always (← label))
  | 't' => add (.jump .ifReplaced (← label))
  | 'T' => add (.jump .unlessReplaced (← label))
  | 'l' => add (.display (← numberAndEnd))
  | 'q' =>
    if selection.last.isSome then throw .oneAddressOnly
    add (.quit ((← numberAndEnd).getD 0 % 256))
  | 'Q' =>
    if selection.last.isSome then throw .oneAddressOnly
    add (.quitSilently ((← numberAndEnd).getD 0 % 256))
  | 'L' =>
    let _ ← numberAndEnd
    add (.obsolete letter)
  | 'r' =>
    forbidInSandbox
    let name ← fileName
    if selection.first = some (.line 0) && selection.last.isNone then
      modify (·.push { first := some (.line 1) } (.readFileAtOnce name))
    else add (.readFile name)
  | 'R' =>
    forbidInSandbox
    add (.readLine (← fileName))
  | 'w' =>
    forbidInSandbox
    add (.writeFile (← newFile))
  | 'W' =>
    forbidInSandbox
    add (.writeFirst (← newFile))
  | 's' => add (.substitute (← substitution))
  | 'y' => add (← transliteration)
  | letter =>
    match simpleActions.lookup letter with
    | none => throw (.unknownCommand letter)
    | some action =>
      endCommand
      add action

/-- Takes commands up to the end of the piece. -/
def commands : (fuel : Nat) → Reader Unit
  | 0 => return
  | fuel + 1 => do
    let _ ← takeWhile fun c => c = ';' || CharKind.contains c .space
    let c ← next
    if c = none then return
    let (selection, letter) ← selection c
    match letter with
    | none => throw .missingCommand
    | some letter =>
      command letter selection
      commands fuel

/-- Takes a piece of a script. -/
def piece : Reader Unit := do
  let draft ← get
  if let some openText := draft.openText then continueText openText
  commands (draft.piece.length + 1)

end Reader

namespace Draft

/-- Reads a piece of a script after others. -/
def read (draft : Draft) (origin : Origin) (piece : List Char) : Option Fault × Draft :=
  let isFirstPiece := draft.origin = .argument 0
  let start := { draft with origin, piece, rest := piece, isFirstPiece }
  match Reader.piece.run start with
  | (.ok (), draft) => (none, draft)
  | (.error cause, draft) => (some ⟨cause, draft.place⟩, draft)

/-- Adds the command whose text goes on to the end of the script. -/
def closeText : Reader Unit := do
  match (← get).openText with
  | none => return
  | some openText =>
    let text ← Reader.unescape .text openText.text
    modify fun draft =>
      { draft.push openText.selection (openText.action text) with openText := none }

/-- The commands of the whole script. -/
def finish (draft : Draft) : Except Fault (List Command) :=
  match draft.blocks with
  | place :: _ => .error ⟨.unclosedBlock, place⟩
  | [] =>
    match closeText.run draft with
    | (.ok (), draft) => .ok draft.commands.reverse
    | (.error cause, draft) => .error ⟨cause, draft.place⟩

/-- The label that the script jumps to but does not have. -/
def missingLabel? (commands : List Command) : Option (List Char) :=
  commands.reverse.findSome? fun command =>
    match command.action with
    | .jump _ label =>
      if label.isEmpty || (after? label commands).isSome then none else some label
    | _ => none

end Draft

end WideColumn.Formatter.Edit
