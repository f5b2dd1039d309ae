import WideColumn.Text.Digits

/-!
# System errors

What the operating system says when it refuses a request. Each refusal has a text, and most have a
number as well, which stands in brackets after the text.

Main definitions: `SystemError`, `SystemError.message`.
-/

namespace WideColumn

/-- Why the operating system refused a request. -/
inductive SystemError where
  /-- A directory on the way, or the file itself, does not exist. -/
  | noSuchFile
  /-- The system may not run or touch the file. -/
  | permissionDenied
  /-- Something of the name exists already. -/
  | fileExists
  /-- A file stands where the way needs a directory. -/
  | notADirectory
  /-- A directory stands where a file is meant. -/
  | isADirectory
  /-- A name or a path is longer than the system allows. -/
  | nameTooLong
  /-- A directory that shall go has entries. -/
  | directoryNotEmpty
  /-- The path has a NUL character, which ends a path for the system. -/
  | nulInName
  /-- What a program is called with has a NUL character. -/
  | nulInArgument
  /-- Any other refusal, in its own words. -/
  | other (text : String)
  deriving DecidableEq

namespace SystemError

/-- The refusal in words, without its number. -/
def words : SystemError → String
  | noSuchFile => "No such file or directory"
  | permissionDenied => "Permission denied"
  | fileExists => "File exists"
  | notADirectory => "Not a directory"
  | isADirectory => "Is a directory"
  | nameTooLong => "File name too long"
  | directoryNotEmpty => "Directory not empty"
  | nulInName => "file name contained an unexpected NUL byte"
  | nulInArgument => "nul byte found in provided data"
  | other text => text

/-- The number of a refusal, if the system gives it one. -/
def number? : SystemError → Option Nat
  | noSuchFile => some 2
  | permissionDenied => some 13
  | fileExists => some 17
  | notADirectory => some 20
  | isADirectory => some 21
  | nameTooLong => some 36
  | directoryNotEmpty => some 39
  | nulInName | nulInArgument | other _ => none

/-- The refusal in words. -/
def message (e : SystemError) : String :=
  match e.number? with
  | some n => e.words ++ " (os error " ++ String.ofList (Text.ofNat n) ++ ")"
  | none => e.words

end SystemError

end WideColumn
