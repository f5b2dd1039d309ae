/-!
# Flags of formatter programs

A program is called with flags and operands in any order. A flag is a letter after a dash or a word
after two, which may be shortened as long as it is clear which word is meant. Letters may share a
dash. A flag may take a value: for a letter the rest of the argument, for a word what stands after
an equals sign, or else the next argument. After two dashes alone everything is an operand.

Flags are read in order, and the first one that is not understood ends the reading.

Main definitions: `Formatter.Flag`, `Formatter.FlagError`, `Formatter.Given`, `Formatter.Flag.scan`.
-/

namespace WideColumn.Formatter

/-- Whether a flag takes a value. -/
inductive Takes where
  | nothing
  | value
  /-- A value may stand in the same argument. -/
  | maybeValue
  /-- The value is the argument as a whole. -/
  | argument
  deriving DecidableEq

/-- A flag that a program knows. -/
structure Flag (α : Type) where
  meaning : α
  letter : Option Char := none
  word : Option String := none
  takes : Takes := .nothing

/-- Why a flag is not understood. -/
inductive FlagError where
  | unknownLetter (letter : Char)
  | unknownWord (text : String)
  /-- Several words begin with the text. -/
  | ambiguous (text : String) (words : List String)
  | needlessValue (word : String)
  | missingValueOfWord (word : String)
  | missingValueOfLetter (letter : Char)
  deriving DecidableEq

/-- A letter in quotes. Of one that is not ASCII only a part is shown, which is no letter. -/
def letterText (letter : Char) : String :=
  "'" ++ String.singleton (if letter.toNat < 0x80 then letter else '\ufffd') ++ "'"

/-- The error in words. -/
def FlagError.message : FlagError → String
  | unknownLetter letter => "invalid option -- " ++ letterText letter
  | unknownWord text => "unrecognized option '--" ++ text ++ "'"
  | ambiguous text words =>
    "option '--" ++ text ++ "' is ambiguous; possibilities:" ++
      String.join (words.map fun word => " '--" ++ word ++ "'")
  | needlessValue word => "option '--" ++ word ++ "' doesn't allow an argument"
  | missingValueOfWord word => "option '--" ++ word ++ "' requires an argument"
  | missingValueOfLetter letter => "option requires an argument -- " ++ letterText letter

/-- What a program is called with. -/
structure Given (α : Type) where
  /-- The flags with their values, in order. -/
  flags : List (α × Option String) := []
  operands : List String := []
  /-- What ended the reading, if not the end of the arguments. -/
  error : Option FlagError := none

namespace Given

variable {α : Type} [DecidableEq α]

/-- A flag is given. -/
def has (given : Given α) (meaning : α) : Bool := given.flags.any (·.1 = meaning)

/-- The values of a flag, in order. -/
def values (given : Given α) (meaning : α) : List String :=
  given.flags.filterMap fun (m, value) => if m = meaning then value else none

/-- The last of some flags that is given. -/
def lastOf? (given : Given α) (meanings : List α) : Option α :=
  (given.flags.map (·.1)).reverse.find? meanings.contains

end Given

namespace Flag

variable {α : Type} [DecidableEq α]

/-- What comes of an argument. -/
inductive Taken (α : Type) where
  | complete (flags : List (α × Option String))
  /-- The value of a flag is the next argument, and there is an error if there is none. -/
  | awaits (flags : List (α × Option String)) (meaning : α) (missing : FlagError)
  | refused (flags : List (α × Option String)) (error : FlagError)

/-- Adds a flag in front. -/
def Taken.cons (flag : α × Option String) : Taken α → Taken α
  | complete flags => .complete (flag :: flags)
  | awaits flags meaning missing => .awaits (flag :: flags) meaning missing
  | refused flags error => .refused (flag :: flags) error

/-- Takes letters that share a dash in an argument. -/
def takeLetters (known : List (Flag α)) (argument : String) : List Char → Taken α
  | [] => .complete []
  | c :: r =>
    match known.find? (·.letter == some c) with
    | none => .refused [] (.unknownLetter c)
    | some flag =>
      match flag.takes, r with
      | .nothing, r => (takeLetters known argument r).cons (flag.meaning, none)
      | .argument, _ => .complete [(flag.meaning, some argument)]
      | .value, [] => .awaits [] flag.meaning (.missingValueOfLetter c)
      | .maybeValue, [] => .complete [(flag.meaning, none)]
      | _, r => .complete [(flag.meaning, some (String.ofList r))]

/-- The flags that a shortened word may mean. -/
def candidates (known : List (Flag α)) (text : String) : List (Flag α × String) :=
  let words := known.filterMap fun flag => flag.word.map (flag, ·)
  match words.find? (·.2 == text) with
  | some exact => [exact]
  | none => words.filter fun (_, word) => text.toList.isPrefixOf word.toList

/-- Takes a word. -/
def takeWord (known : List (Flag α)) (text : String) : Taken α :=
  let name := String.ofList (text.toList.takeWhile (· ≠ '='))
  let value := (text.toList.dropWhile (· ≠ '=')).tail?.map String.ofList
  match candidates known name with
  | [] => .refused [] (.unknownWord text)
  | (flag, word) :: others =>
    let rivals := others.filter fun (other, _) =>
      other.meaning ≠ flag.meaning || other.takes ≠ flag.takes
    if !rivals.isEmpty then .refused [] (.ambiguous text (word :: rivals.map (·.2)))
    else
      match flag.takes, value with
      | .nothing, some _ => .refused [] (.needlessValue word)
      | .value, none => .awaits [] flag.meaning (.missingValueOfWord word)
      | _, value => .complete [(flag.meaning, value)]

/-- Takes an argument that is a flag or several; none if it is an operand. -/
def take? (known : List (Flag α)) (text : String) : Option (Taken α) :=
  match text.toList with
  | '-' :: '-' :: word => some (takeWord known (String.ofList word))
  | '-' :: c :: letters => some (takeLetters known text (c :: letters))
  | _ => none

/-- Reads flags and operands. -/
def scan (known : List (Flag α)) : List String → Given α
  | [] => {}
  | text :: rest =>
    if text = "--" then { operands := rest }
    else
      match take? known text with
      | none =>
        let given := scan known rest
        { given with operands := text :: given.operands }
      | some (.complete flags) =>
        let given := scan known rest
        { given with flags := flags ++ given.flags }
      | some (.refused flags error) => { flags, error := some error }
      | some (.awaits flags meaning missing) =>
        match rest with
        | [] => { flags, error := some missing }
        | value :: rest =>
          let given := scan known rest
          { given with flags := flags ++ (meaning, some value) :: given.flags }

end Flag

end WideColumn.Formatter
