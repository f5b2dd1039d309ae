import WideColumn.Disk.SystemError
import WideColumn.Formatter.Flag
import WideColumn.Host
import WideColumn.Text.Utf8

/-!
# Complaints of formatter programs

A program tells the user what it cannot do, on a line that begins with the name by which the program
was called. Names of files stand in quotes as a shell would want them, and what else the user gave
in plain quotes; bytes that are no printable ASCII characters are written in octal digits.

Main definitions: `Formatter.complain`, `Formatter.shellQuoted`, `Formatter.plainQuoted`.
-/

namespace WideColumn.Formatter

variable {m : Type → Type}

/-- Tells the user what the program of a name cannot do. -/
def complain (system : SystemCalls m) (name text : String) : m Unit :=
  system.tell (name ++ ": " ++ text ++ "\n")

/-! ## Quotes -/

/-- A backslash and the letter of a control character, or three octal digits. -/
def octalEscape (c : Char) : List Char :=
  match c with
  | '\x07' => ['\\', 'a']
  | '\x08' => ['\\', 'b']
  | '\t' => ['\\', 't']
  | '\n' => ['\\', 'n']
  | '\x0b' => ['\\', 'v']
  | '\x0c' => ['\\', 'f']
  | '\r' => ['\\', 'r']
  | c =>
    let digit (n : Nat) : Char := Char.ofNat ('0'.toNat + n % 8)
    ['\\', digit (c.toNat / 64), digit (c.toNat / 8), digit c.toNat]

/-- The octet is a printable ASCII character. -/
def isPlain (c : Char) : Bool := 0x20 ≤ c.toNat && c.toNat < 0x7F

/-- Quotes octets for a shell, where what is not plain stands between other quotes. `isEscaping`
says that these are open. -/
def shellQuotedFrom : (isEscaping : Bool) → List Char → List Char
  | _, [] => ['\'']
  | isEscaping, c :: r =>
    if !isPlain c then
      (if isEscaping then [] else ['\'', '$', '\'']) ++ octalEscape c ++ shellQuotedFrom true r
    else
      (if isEscaping then ['\'', '\''] else []) ++
        (if c = '\'' then ['\'', '\\', '\'', '\''] else [c]) ++ shellQuotedFrom false r

/-- The octet means nothing special between double quotes. -/
def isQuietInDoubleQuotes (c : Char) : Bool := isPlain c && ['"', '\\', '$', '`'].all (· ≠ c)

/-- A text in quotes as a shell would want it. -/
def shellQuoted (text : String) : String :=
  let octets := Text.octets text.toList
  let quoted :=
    if octets.contains '\'' && octets.all isQuietInDoubleQuotes then ['"'] ++ octets ++ ['"']
    else ['\''] ++ shellQuotedFrom false octets
  String.ofList quoted

/-- The octet means something special to a shell, or where messages are read. -/
def isSpecial (c : Char) : Bool := !isPlain c || " !\"$&'()*:;<=>?[\\^`|".toList.contains c

/-- A text in quotes as a shell would want it, if it would want any. -/
def quotedIfSpecial (text : String) : String :=
  let isSpecialInFront := match text.toList with
    | [] => true
    | c :: rest => c = '#' || c = '~' || (rest.isEmpty && (c = '{' || c = '}'))
  if isSpecialInFront || (Text.octets text.toList).any isSpecial then shellQuoted text else text

/-- A text in plain quotes. -/
def plainQuoted (text : String) : String :=
  let escape (c : Char) : List Char :=
    if c = '\'' || c = '\\' then ['\\', c] else if isPlain c then [c] else octalEscape c
  String.ofList (['\''] ++ (Text.octets text.toList).flatMap escape ++ ['\''])

/-! ## Flags -/

variable [Monad m]

/-- Points the user to the help of a program. -/
def pointToHelp (system : SystemCalls m) (name : String) : m Unit :=
  system.tell ("Try '" ++ name ++ " --help' for more information.\n")

/-- Complains about how a program was called. -/
def complainAboutCall (system : SystemCalls m) (name text : String) : m Unit := do
  complain system name text
  pointToHelp system name

end WideColumn.Formatter
