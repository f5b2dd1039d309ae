import WideColumn.Disk.SystemError
import WideColumn.Text.Split

/-!
# Paths

A path is a text that names a file by the directories on the way to it, with slashes between. It is
absolute when it begins with a slash. Repeated slashes count as one, and a slash at the end asks for
a directory.

Texts are kept as they were given, since messages show them; a route is what the system reads out of
a text.

Main definitions: `Path.join`, `Path.Route`, `Path.route?`, `Path.components`, `Path.ofComponents`.
-/

namespace WideColumn.Path

/-! ## Texts -/

/-- The path is absolute. -/
def isAbsolute (s : List Char) : Bool := s.head? == some '/'

/-- The path that leads from a directory on: an absolute one stands for itself, and any other comes
after the directory with one slash between. -/
def joinChars (base path : List Char) : List Char :=
  if isAbsolute path then path
  else if base.isEmpty || base.getLast? == some '/' then base ++ path
  else base ++ ['/'] ++ path

/-- The path that leads from a directory on. -/
def join (base path : String) : String := String.ofList (joinChars base.toList path.toList)

/-- The names between slashes. -/
def names (s : List Char) : List String :=
  ((Text.splitAt '/' s).filter (!·.isEmpty)).map String.ofList

/-- Of slashes at the end of a path one is kept. -/
def trimSlashes (path : String) : String :=
  let reversed := path.toList.reverse
  if (reversed.takeWhile (· = '/')).length > 1 && reversed.any (· ≠ '/') then
    String.ofList (reversed.dropWhile (· = '/')).reverse ++ "/"
  else path

/-! ## Routes -/

/-- The way that a path describes. -/
structure Route where
  /-- The way begins at the root, and not at the working directory. -/
  isAbsolute : Bool
  /-- The names on the way; a dot stays, and two dots go up. -/
  names : List String
  /-- The way has to end at a directory. -/
  needsDirectory : Bool
  deriving DecidableEq

/-- A path has fewer bytes than this. -/
def maxPathBytes : Nat := 4096

/-- A name has at most this many bytes. -/
def maxNameBytes : Nat := 255

/-- The route of a path, unless the system refuses the text. -/
def route? (path : String) : Except SystemError Route :=
  let s := path.toList
  if s.contains (Char.ofNat 0) then .error .nulInName
  else if s.isEmpty then .error .noSuchFile
  else if path.utf8ByteSize ≥ maxPathBytes then .error .nameTooLong
  else .ok
    { isAbsolute := isAbsolute s
      names := names s
      needsDirectory := s.getLast? == some '/' }

/-! ## Components -/

/-- The names of a path without the dots that stay, but for one in front of a relative path. -/
def components (path : String) : List String :=
  let s := path.toList
  match names s with
  | [] => []
  | first :: rest =>
    if first = "." && !isAbsolute s then first :: rest.filter (· ≠ ".")
    else (first :: rest).filter (· ≠ ".")

/-- The path with the given components. -/
def ofComponents (isAbsolute : Bool) (components : List String) : String :=
  (if isAbsolute then "/" else "") ++ "/".intercalate components

end WideColumn.Path
