import WideColumn.Text.Split

/-!
# Switches of a command line

A switch has a long name after two dashes and perhaps a short one after a single dash. A value
stands after an equals sign or in the next argument, where it may not look like a switch itself;
several short names may share one dash, and a value may follow the last of them directly. Arguments
that are not switches are operands, and after two dashes alone every argument is one.

A switch is given once, unless its values are collected. A value that a switch does not accept is
refused as soon as it is read, so of two faults the first is reported.

Main definitions: `CommandLine.Switch`, `CommandLine.UsageError`, `CommandLine.Given`,
`CommandLine.scan`.
-/

namespace WideColumn.CommandLine

/-! ## Switches -/

/-- What a switch is for. -/
inductive Purpose where
  /-- It is there or not. -/
  | flag
  /-- It has a value. -/
  | value
  /-- Every occurrence adds values, which have commas between. -/
  | list
  /-- The program tells something about itself and does nothing else. -/
  | about
  deriving DecidableEq

/-- A switch that a command knows. -/
structure Switch where
  /-- The long name, without its dashes. -/
  name : String
  short : Option Char := none
  purpose : Purpose
  /-- The values that the switch accepts. -/
  accepts : String → Bool := fun _ => true

/-- Why a command line is not understood. -/
inductive UsageError where
  | unknownSwitch (text : String)
  | missingValue (name : String)
  | unneededValue (name : String)
  | invalidValue (name value : String)
  /-- A switch is given twice. -/
  | repeated (name : String)
  | unexpectedOperand (text : String)
  | unknownCommand (text : String)
  | missingCommand
  deriving DecidableEq

/-- The error in words. -/
def UsageError.message : UsageError → String
  | unknownSwitch text => "unexpected argument '" ++ text ++ "' found"
  | missingValue name => "a value is required for '--" ++ name ++ "' but none was supplied"
  | unneededValue name => "unexpected value for '--" ++ name ++ "' found"
  | invalidValue name value => "invalid value '" ++ value ++ "' for '--" ++ name ++ "'"
  | repeated name => "the argument '--" ++ name ++ "' cannot be used multiple times"
  | unexpectedOperand text => "unexpected argument '" ++ text ++ "' found"
  | unknownCommand text => "unrecognized subcommand '" ++ text ++ "'"
  | missingCommand => "a subcommand is required but one was not provided"

/-! ## What is given -/

/-- The switches that are given, by their long names, with their values. -/
structure Given where
  entries : List (String × List String) := []
  deriving DecidableEq

namespace Given

/-- The values of a switch, if it is given. -/
def values? (given : Given) (name : String) : Option (List String) := given.entries.lookup name

/-- The switch is given. -/
def has (given : Given) (name : String) : Bool := (given.values? name).isSome

/-- The value of a switch, if it is given. -/
def value? (given : Given) (name : String) : Option String := (given.values? name).bind (·.head?)

/-- The values of a text with commas between them. -/
def listed (text : String) : List String := (Text.splitAt ',' text.toList).map String.ofList

/-- The values that a text spells for a switch. -/
def spelled (switch : Switch) (text : String) : List String :=
  match switch.purpose with
  | .list => listed text
  | _ => [text]

/-- Adds a switch without a value. -/
def addFlag (given : Given) (switch : Switch) : Except UsageError Given :=
  if given.has switch.name then .error (.repeated switch.name)
  else .ok ⟨(switch.name, []) :: given.entries⟩

/-- Adds a switch with a value. -/
def addValue (given : Given) (switch : Switch) (text : String) : Except UsageError Given :=
  let values := spelled switch text
  match given.values? switch.name, values.find? (!switch.accepts ·) with
  | _, some refused => .error (.invalidValue switch.name refused)
  | none, none => .ok ⟨(switch.name, values) :: given.entries⟩
  | some earlier, none =>
    if switch.purpose = .list then .ok ⟨(switch.name, earlier ++ values) :: given.entries⟩
    else .error (.repeated switch.name)

end Given

/-! ## Arguments -/

/-- What an argument looks like. -/
inductive Argument where
  /-- A long name, and a value after an equals sign. -/
  | long (name : String) (value : Option String)
  /-- Short names that share a dash. -/
  | shorts (letters : List Char)
  | operand

/-- What a text looks like. A dash alone is an operand. -/
def Argument.ofText (text : String) : Argument :=
  match text.toList with
  | '-' :: '-' :: r =>
    let name := String.ofList (r.takeWhile (· ≠ '='))
    match r.dropWhile (· ≠ '=') with
    | [] => .long name none
    | _ :: value => .long name (some (String.ofList value))
  | '-' :: c :: r => .shorts (c :: r)
  | _ => .operand

/-- The text may not stand for a value in an argument of its own. -/
def looksLikeSwitch (text : String) : Bool :=
  match Argument.ofText text with
  | .operand => false
  | _ => true

/-- What came of one argument. -/
inductive Taken where
  | complete (given : Given)
  /-- The value of a switch is in the next argument. -/
  | awaits (switch : Switch) (given : Given)
  /-- The program shall tell something about itself. -/
  | about (name : String)
  | operand

/-- Takes a switch by its long name. -/
def takeLong (switches : List Switch) (given : Given) (name : String) (value : Option String) :
    Except UsageError Taken :=
  match switches.find? (·.name == name) with
  | none => .error (.unknownSwitch ("--" ++ name))
  | some switch =>
    match switch.purpose, value with
    | .about, none => .ok (.about name)
    | .flag, none => (given.addFlag switch).map .complete
    | .about, some _ | .flag, some _ => .error (.unneededValue name)
    | _, some text => (given.addValue switch text).map .complete
    | _, none => .ok (.awaits switch given)

/-- Takes switches by short names that share a dash. What follows the name of a switch with a value
is the value, less an equals sign in front. -/
def takeShorts (switches : List Switch) : List Char → Given → Except UsageError Taken
  | [], given => .ok (.complete given)
  | c :: r, given =>
    match switches.find? (·.short == some c) with
    | none => .error (.unknownSwitch (String.ofList ['-', c]))
    | some switch =>
      match switch.purpose, r with
      | .about, _ => .ok (.about switch.name)
      | .flag, r =>
        match given.addFlag switch with
        | .ok given => takeShorts switches r given
        | .error e => .error e
      | _, [] => .ok (.awaits switch given)
      | _, '=' :: text => (given.addValue switch (String.ofList text)).map .complete
      | _, text => (given.addValue switch (String.ofList text)).map .complete

/-- Takes one argument. -/
def take (switches : List Switch) (given : Given) (text : String) : Except UsageError Taken :=
  match Argument.ofText text with
  | .long name value => takeLong switches given name value
  | .shorts letters => takeShorts switches letters given
  | .operand => .ok .operand

/-! ## Scanning -/

/-- What operands mean to those who scan. -/
inductive Operands where
  /-- They are collected. -/
  | collected
  /-- There may be none. -/
  | refused
  /-- The first one is the name of a command, which has to follow. -/
  | command
  deriving DecidableEq

/-- Where a scan ends. -/
inductive Scan where
  /-- At the end of the arguments, or at the name of a command. -/
  | level (given : Given) (operands rest : List String)
  /-- At a switch that asks the program about itself. -/
  | about (name : String)

/-- What comes of the arguments after two dashes alone, none of which is a switch. The name of a
command does not stand there. -/
def scanOperands (meaning : Operands) (given : Given) (operands rest : List String) :
    Except UsageError Scan :=
  match meaning, rest with
  | .command, [] => .error .missingCommand
  | .command, operand :: _ | .refused, operand :: _ => .error (.unexpectedOperand operand)
  | .refused, [] | .collected, _ => .ok (.level given (operands ++ rest) [])

/-- Goes through arguments in order, to the name of a command if one has to follow. -/
def scan (switches : List Switch) (meaning : Operands) (given : Given) (operands : List String) :
    List String → Except UsageError Scan
  | [] => .ok (.level given operands [])
  | text :: rest =>
    if text = "--" then scanOperands meaning given operands rest
    else
      match take switches given text with
      | .error e => .error e
      | .ok (.complete given) => scan switches meaning given operands rest
      | .ok (.about name) => .ok (.about name)
      | .ok .operand =>
        match meaning with
        | .command => .ok (.level given operands (text :: rest))
        | .refused => .error (.unexpectedOperand text)
        | .collected => scan switches meaning given (operands ++ [text]) rest
      | .ok (.awaits switch given) =>
        match rest with
        | [] => .error (.missingValue switch.name)
        | value :: rest =>
          if looksLikeSwitch value then .error (.missingValue switch.name)
          else
            match given.addValue switch value with
            | .error e => .error e
            | .ok given => scan switches meaning given operands rest

end WideColumn.CommandLine
