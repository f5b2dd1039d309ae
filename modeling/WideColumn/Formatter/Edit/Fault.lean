import WideColumn.Pattern.Error
import WideColumn.Text.Digits

/-!
# Faults of edit scripts

What is wrong with a script, and where. A script is given in pieces, each an argument or a file. In
an argument a place is the number of characters that were read, and in a file it is a line.

Main definitions: `Edit.Cause`, `Edit.Fault`, `Edit.Fault.message`.
-/

namespace WideColumn.Formatter.Edit

/-- What is wrong with a script. -/
inductive Cause where
  | missingCommand
  | unknownCommand (letter : Char)
  | unexpectedComma
  | badFirstAddress
  | badLineZero
  | repeatedNegation
  | oneAddressOnly
  | extraCharacters
  | missingBackslash
  | incompleteCommand
  | excessClose
  | unclosedBlock
  | addressOfClose
  | addressOfLabel
  | addressOfComment
  | missingLabel
  | missingFile
  | openAddress
  | openSubstitution
  | openTransliteration
  | unknownOption
  | repeatedPrint
  | repeatedGlobal
  | repeatedNumber
  | numberZero
  | unequalLengths
  | badReference (number : Nat)
  | noPatternYet
  | modifiedLatest
  | doubleEscape
  | newerVersion
  | sandboxed
  | pattern (error : PatternError)
  deriving DecidableEq

/-- The cause in words. -/
def Cause.text : Cause → String
  | missingCommand => "missing command"
  | unknownCommand letter => "unknown command: `" ++ String.singleton letter ++ "'"
  | unexpectedComma => "unexpected `,'"
  | badFirstAddress => "invalid usage of +N or ~N as first address"
  | badLineZero => "invalid usage of line address 0"
  | repeatedNegation => "multiple `!'s"
  | oneAddressOnly => "command only uses one address"
  | extraCharacters => "extra characters after command"
  | missingBackslash => "expected \\ after `a', `c' or `i'"
  | incompleteCommand => "incomplete command"
  | excessClose => r"unexpected `}'"
  | unclosedBlock => r"unmatched `{'"
  | addressOfClose => r"`}' doesn't want any addresses"
  | addressOfLabel => ": doesn't want any addresses"
  | addressOfComment => "comments don't accept any addresses"
  | missingLabel => "\":\" lacks a label"
  | missingFile => "missing filename in r/R/w/W commands"
  | openAddress => "unterminated address regex"
  | openSubstitution => "unterminated `s' command"
  | openTransliteration => "unterminated `y' command"
  | unknownOption => "unknown option to `s'"
  | repeatedPrint => "multiple `p' options to `s' command"
  | repeatedGlobal => "multiple `g' options to `s' command"
  | repeatedNumber => "multiple number options to `s' command"
  | numberZero => "number option to `s' command may not be zero"
  | unequalLengths => "strings for `y' command are different lengths"
  | badReference number =>
    "invalid reference \\" ++ String.ofList (Text.ofNat number) ++ " on `s' command's RHS"
  | noPatternYet => "no previous regular expression"
  | modifiedLatest => "cannot specify modifiers on empty regexp"
  | doubleEscape => "recursive escaping after \\c not allowed"
  | newerVersion => "expected newer version of sed"
  | sandboxed => "e/r/w commands disabled in sandbox mode"
  | pattern error => error.message

/-- Where a piece of a script comes from. -/
inductive Origin where
  | argument (number : Nat)
  | file (name : String)
  deriving DecidableEq

/-- A place in a script. -/
structure Place where
  origin : Origin
  /-- The number of characters before the place in an argument, and the line in a file. -/
  position : Nat
  deriving DecidableEq

/-- A place in words. -/
def Place.text (place : Place) : String :=
  let position := String.ofList (Text.ofNat place.position)
  match place.origin with
  | .argument number =>
    "-e expression #" ++ String.ofList (Text.ofNat number) ++ ", char " ++ position
  | .file name => "file " ++ name ++ " line " ++ position

/-- The place without characters before it; lines stay. -/
def Place.start (place : Place) : Place :=
  match place.origin with
  | .argument _ => { place with position := 0 }
  | .file _ => place

/-- What is wrong at a place. -/
structure Fault where
  cause : Cause
  place : Place
  deriving DecidableEq

/-- The fault in words. What is wrong with a list of characters is told without its place. -/
def Fault.message (fault : Fault) : String :=
  match fault.cause with
  | .pattern .nakedKind => fault.cause.text
  | cause => fault.place.text ++ ": " ++ cause.text

/-- The exit status that a fault leads to. -/
def Fault.status (fault : Fault) : Nat :=
  match fault.cause with
  | .pattern .nakedKind => 4
  | _ => 1

end WideColumn.Formatter.Edit
