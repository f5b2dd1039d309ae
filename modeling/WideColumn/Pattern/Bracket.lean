import WideColumn.Pattern.Basic
import WideColumn.Pattern.Error

/-!
# Lists of characters between brackets

A list has characters, ranges of them with a dash between, and names of kinds. A closing bracket is
a member if it is the first one, and a dash if it is the first or the last. A character may also be
given as a collating element or as an equivalence class, which have just that one member.

Main definitions: `Pattern.Bracket.read`.
-/

namespace WideColumn.Pattern.Bracket

/-- A piece of a list. -/
inductive Piece where
  | char (c : Char)
  /-- A dash, which may stand between the ends of a range. -/
  | dash
  | close
  | caret
  /-- The beginning of a name that the character ends, with a closing bracket after it. -/
  | name (delimiter : Char)
  deriving DecidableEq

/-- The first piece of a text, and what follows; none at the end. Three dashes are one character. -/
def piece? : List Char → Option (Piece × List Char)
  | [] => none
  | '[' :: c :: r =>
    if c = '.' || c = '=' || c = ':' then some (.name c, r) else some (.char '[', c :: r)
  | '-' :: '-' :: '-' :: r => some (.char '-', r)
  | '-' :: r => some (.dash, r)
  | ']' :: r => some (.close, r)
  | '^' :: r => some (.caret, r)
  | c :: r => some (.char c, r)

/-- A member of a list. -/
inductive Element where
  | char (c : Char)
  | kind (name : List Char)
  | equivalence (name : List Char)
  | collating (name : List Char)
  deriving DecidableEq

/-- A name has fewer characters than this. -/
def maxNameLength : Nat := 32

/-- The name up to its end, and what follows. `name` is what was read of it, last character
first. -/
def nameUpTo (delimiter : Char) (name : List Char) :
    List Char → Except PatternError (List Char × List Char)
  | [] | [_] => .error .openBracket
  | c :: d :: r =>
    if name.length ≥ maxNameLength then .error .openBracket
    else if c = delimiter && d = ']' then .ok (name.reverse, r)
    else nameUpTo delimiter (c :: name) (d :: r)

/-- The member that begins with a piece, and what follows. A dash is a member at the end of the
list, or where a dash can mean nothing else. -/
def element (acceptsDash : Bool) (piece : Piece) (rest : List Char) :
    Except PatternError (Element × List Char) :=
  match piece with
  | .name delimiter => do
    let (name, rest) ← nameUpTo delimiter [] rest
    return (if delimiter = ':' then .kind name
      else if delimiter = '=' then .equivalence name
      else .collating name, rest)
  | .dash =>
    if acceptsDash || rest.head? == some ']' then .ok (.char '-', rest) else .error .badRange
  | .close => .ok (.char ']', rest)
  | .caret => .ok (.char '^', rest)
  | .char c => .ok (.char c, rest)

/-- The one character that a member stands for. -/
def Element.char? : Element → Except PatternError Char
  | char c | equivalence [c] | collating [c] => .ok c
  | _ => .error .badCollation

/-- The characters that a member stands for. -/
def Element.range (element : Element) : Except PatternError CharRange :=
  match element with
  | .kind name =>
    match CharKind.ofName? name with
    | some known => .ok (.ofKind known)
    | none => .error .unknownKind
  | element => do
    let c ← element.char?
    return .between c c

/-- The characters between two members, which are taken for capitals if case is ignored. -/
def rangeBetween (ignoresCase : Bool) (first last : Element) : Except PatternError CharRange := do
  let fold (c : Char) : Char := if ignoresCase then c.toUpper else c
  match last with
  | .kind _ | .equivalence _ => throw .badRange
  | _ =>
    let first := fold (← first.char?)
    let last := fold (← last.char?)
    if last < first then throw .badRange
    return .between first last

/-- The member that begins with a piece may be the first end of a range. -/
def Element.mayBeginRange : Element → Bool
  | kind _ | equivalence _ => false
  | _ => true

/-- The members of a list up to its end, and what follows. `piece` was read from the front. -/
def ranges (ignoresCase : Bool) (fuel : Nat) (isFirst : Bool) (found : List CharRange)
    (piece : Piece)
    (rest : List Char) : Except PatternError (List CharRange × List Char) :=
  match fuel with
  | 0 => .error .openBracket
  | fuel + 1 => do
    let (first, rest) ← element isFirst piece rest
    let some (piece, afterPiece) := piece? rest | throw .openBracket
    let goOn (found : List CharRange) (piece : Piece) (rest : List Char) :=
      if piece = .close then .ok (found, rest) else ranges ignoresCase fuel false found piece rest
    if first.mayBeginRange && piece = .dash then
      let some (second, afterSecond) := piece? afterPiece | throw .openBracket
      if second = .close then
        goOn (found ++ [← first.range]) (.char '-') afterPiece
      else
        let (last, rest) ← element true second afterSecond
        let range ← rangeBetween ignoresCase first last
        let some (piece, rest) := piece? rest | throw .openBracket
        goOn (found ++ [range]) piece rest
    else goOn (found ++ [← first.range]) piece afterPiece

/-- The list is the name of a kind without the second pair of brackets. -/
def isNakedKind (ranges : List CharRange) : Bool :=
  let chars := ranges.map fun
    | .between a b => if a = b then some a else none
    | .ofKind _ => none
  chars.head? == some (some ':') && chars.getLast? == some (some ':') && chars.all (·.isSome) &&
    chars.any (· != some ':')

/-- Reads a list after its opening bracket. -/
def read (ignoresCase : Bool) (rest : List Char) : Except PatternError (CharSet × List Char) := do
  let some (piece, afterPiece) := piece? rest | throw .malformed
  let isNegated := piece = .caret
  let (piece, rest) ←
    if isNegated then
      match piece? afterPiece with
      | some found => pure found
      | none => throw .malformed
    else pure (piece, afterPiece)
  let (ranges, rest) ← ranges ignoresCase (rest.length + 1) true [] piece rest
  return ({ ranges, isNegated }, rest)

end WideColumn.Pattern.Bracket
