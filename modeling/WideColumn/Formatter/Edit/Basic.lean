import WideColumn.Pattern.Search

/-!
# Edit scripts

An edit script is a list of commands. Each line of a file is put into a buffer and goes through all
commands in order, and is printed in the end. A command is for all lines or for those that it
selects: one line, or a range from one line to another.

Lines are counted, and a selection names them by number or by what they match. Texts are lists of
octets.

Main definitions: `Edit.Target`, `Edit.Address`, `Edit.RangeEnd`, `Edit.Selection`,
`Edit.Substitution`, `Edit.Action`, `Edit.Command`.
-/

namespace WideColumn.Formatter.Edit

/-! ## Selecting lines -/

/-- What lines are searched for. -/
inductive Target where
  /-- What was searched for last. -/
  | latest
  | pattern (pattern : Pattern) (mode : Pattern.Mode)
  deriving DecidableEq

/-- Lines that a command is for. -/
inductive Address where
  | line (number : Nat)
  /-- Every line that comes a number of steps after the first one. -/
  | stride (first step : Nat)
  | lastLine
  | matching (target : Target)
  deriving DecidableEq

/-- Where a range of lines ends. -/
inductive RangeEnd where
  | address (address : Address)
  /-- So many lines after the first one. -/
  | following (count : Nat)
  /-- At the next line after the first one whose number is a multiple. -/
  | multiple (number : Nat)
  deriving DecidableEq

/-- The range ends at a line of a number, and never after it. -/
def RangeEnd.isNumber : RangeEnd → Bool
  | address (.line _) => true
  | _ => false

/-- The lines that a command is for: all, some, or ranges of lines; or all others. -/
structure Selection where
  first : Option Address := none
  last : Option RangeEnd := none
  isNegated : Bool := false
  deriving DecidableEq

/-! ## Substitutions -/

/-- A case of letters. -/
inductive LetterCase where
  | upper
  | lower
  deriving DecidableEq, Repr

/-- The character in a case. -/
def LetterCase.apply (letterCase : LetterCase) (c : Char) : Char :=
  match letterCase with
  | upper => c.toUpper
  | lower => c.toLower

/-- The case of a text that is inserted, and that of its first character if it has one of its own.
-/
structure CaseRule where
  all : Option LetterCase := none
  first : Option LetterCase := none
  deriving DecidableEq

/-- The text in the case of a rule. -/
def CaseRule.apply (rule : CaseRule) (s : List Char) : List Char :=
  let spell (letterCase : Option LetterCase) (c : Char) : Char := letterCase.elim c (·.apply c)
  match s with
  | [] => []
  | c :: r => spell (rule.first <|> rule.all) c :: r.map (spell rule.all)

/-- A part of what takes the place of a match: a text, and after it what a group matched. -/
structure Insertion where
  text : List Char
  group : Option Nat
  rule : CaseRule
  deriving DecidableEq

/-- Puts something in place of what a pattern matches. -/
structure Substitution where
  target : Target
  insertions : List Insertion
  /-- The pattern has groups up to this one. -/
  greatestGroup : Nat
  /-- The match to begin with, counted from one. -/
  number : Nat
  /-- All further matches are replaced as well. -/
  isGlobal : Bool
  /-- The line is printed if something was replaced. -/
  prints : Bool
  /-- The line is handed to a shell if something was replaced. -/
  runs : Bool
  /-- The line is printed before it is handed to a shell, and not after it. -/
  printsBeforeRun : Bool
  /-- The file to which the line is written if something was replaced. -/
  output : Option String
  deriving DecidableEq

/-- The greatest group that a substitution refers to. -/
def greatestGroup (insertions : List Insertion) : Nat :=
  (insertions.filterMap (·.group)).foldl max 0

/-! ## Commands -/

/-- When a jump is made. -/
inductive JumpCondition where
  | always
  /-- Something was replaced since the line was read. -/
  | ifReplaced
  | unlessReplaced
  deriving DecidableEq

/-- What a command does. -/
inductive Action where
  /-- The commands up to the end of the block are only for the lines that were selected. -/
  | beginBlock
  | endBlock
  | label (name : List Char)
  /-- Goes on after a label, or at the end of the script if it has no name. -/
  | jump (condition : JumpCondition) (label : List Char)
  /-- Prints a text before the next line. -/
  | append (text : List Char)
  /-- Prints a text at once. -/
  | insert (text : List Char)
  /-- Prints a text in place of the line, or of the range. -/
  | change (text : List Char)
  | delete
  /-- Deletes the first line of the buffer and begins again with what is left. -/
  | deleteFirst
  | print
  | printFirst
  | printNumber
  | printName
  /-- Prints the buffer so that all characters can be seen, with a width of its own or without. -/
  | display (width : Option Nat)
  /-- Takes the next line in place of this one. -/
  | next
  /-- Takes the next line in addition to this one. -/
  | join
  /-- Copies the buffer to the store. -/
  | hold
  | holdMore
  /-- Copies the store to the buffer. -/
  | get
  | getMore
  | exchange
  | clear
  | substitute (substitution : Substitution)
  /-- Replaces characters by others. -/
  | transliterate (table : List (Char × Char))
  /-- Prints a file before the next line. -/
  | readFile (name : String)
  /-- Prints a file at once, as it is. -/
  | readFileAtOnce (name : String)
  /-- Prints the next line of a file before the next line. -/
  | readLine (name : String)
  | writeFile (name : String)
  | writeFirst (name : String)
  /-- Hands a text to a shell, or else the buffer. -/
  | runShell (text : Option (List Char))
  | quit (status : Nat)
  /-- Quits without printing the line. -/
  | quitSilently (status : Nat)
  /-- A command of old that is understood no more. -/
  | obsolete (letter : Char)
  deriving DecidableEq

/-- A command with its number in the script. -/
structure Command where
  number : Nat
  selection : Selection
  action : Action
  deriving DecidableEq

/-- The commands after a label. Of labels with one name the last one counts. -/
def after? (label : List Char) : List Command → Option (List Command)
  | [] => none
  | command :: rest =>
    match after? label rest with
    | some found => some found
    | none => if command.action = .label label then some rest else none

/-- The commands after a block. `depth` blocks within it have begun. -/
def pastBlock : (depth : Nat) → List Command → List Command
  | _, [] => []
  | depth, command :: rest =>
    match command.action, depth with
    | .beginBlock, depth => pastBlock (depth + 1) rest
    | .endBlock, 0 => rest
    | .endBlock, depth + 1 => pastBlock depth rest
    | _, depth => pastBlock depth rest

end WideColumn.Formatter.Edit
