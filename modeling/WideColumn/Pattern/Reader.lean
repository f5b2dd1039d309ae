import WideColumn.Pattern.Bracket
import WideColumn.Text.Digits

/-!
# Reading patterns

A pattern is spelled in a basic or in an extended syntax. In the extended syntax the parentheses of
groups, the braces of counts, the bar between alternatives, the plus sign and the question mark
stand alone; in the basic one they have a backslash in front, and without it they stand for
themselves.

In the basic syntax an edge of lines is one only at the edge of the pattern, of a group or of an
alternative. There a repetition with nothing in front of it stands for itself; in the extended
syntax it is passed over, or repeats the empty text. A strict reader refuses some of what a lenient
one makes sense of: in the basic syntax a repetition of a repetition, in the extended one a
repetition of nothing.

Main definitions: `Pattern.Dialect`, `Pattern.Reading`, `Pattern.read`.
-/

namespace WideColumn.Pattern

/-- A way to spell patterns. -/
structure Dialect where
  isExtended : Bool := false
  isStrict : Bool := false
  /-- The ends of ranges are meant as capitals. -/
  ignoresCase : Bool := false
  deriving DecidableEq

/-! ## Tokens -/

/-- A repetition that is spelled by one sign. -/
inductive Sign where
  | star
  | plus
  | question
  deriving DecidableEq

namespace Sign

/-- The sign. -/
def char : Sign → Char
  | star => '*'
  | plus => '+'
  | question => '?'

/-- The least number of rounds. -/
def least : Sign → Nat
  | plus => 1
  | _ => 0

/-- The greatest number of rounds. -/
def most : Sign → Option Nat
  | question => some 1
  | _ => none

end Sign

/-- A piece of the spelling of a pattern. -/
inductive Token where
  | char (c : Char)
  | set (set : CharSet)
  | bracket
  | edge (edge : Edge)
  | reference (number : Nat)
  | sign (sign : Sign)
  | openCount
  | closeCount
  | openGroup
  | closeGroup
  | bar
  deriving DecidableEq

/-- What a character means that is an operator if it stands as the dialect wants it. -/
def operator? : Char → Option Token
  | '+' => some (.sign .plus)
  | '?' => some (.sign .question)
  | '{' => some .openCount
  | '}' => some .closeCount
  | '(' => some .openGroup
  | ')' => some .closeGroup
  | '|' => some .bar
  | _ => none

/-- What a character means after a backslash. -/
def escaped (dialect : Dialect) (c : Char) : Token :=
  let words (isNegated : Bool) : CharSet := ⟨[.ofKind .word], isNegated⟩
  let blanks (isNegated : Bool) : CharSet := ⟨[.ofKind .space], isNegated⟩
  match c with
  | '<' => .edge .wordStart
  | '>' => .edge .wordEnd
  | 'b' => .edge .wordEdge
  | 'B' => .edge .noWordEdge
  | '`' => .edge .textStart
  | '\'' => .edge .textEnd
  | 'w' => .set (words false)
  | 'W' => .set (words true)
  | 's' => .set (blanks false)
  | 'S' => .set (blanks true)
  | c =>
    if '1' ≤ c && c ≤ '9' then .reference (c.toNat - '0'.toNat)
    else if dialect.isExtended then .char c
    else (operator? c).getD (.char c)

/-- In the basic syntax the end of a line is meant only where nothing of the same alternative
follows. -/
def endsAlternative : List Char → Bool
  | [] | '\\' :: ')' :: _ | '\\' :: '|' :: _ => true
  | _ => false

/-- The first token of a text, and what follows; none at the end. `atStart` says that nothing of the
same alternative stands in front of it. -/
def token? (dialect : Dialect) (atStart : Bool) :
    List Char → Except PatternError (Option (Token × List Char))
  | [] => .ok none
  | ['\\'] => .error .trailingBackslash
  | '\\' :: c :: r => .ok (some (escaped dialect c, r))
  | c :: r =>
    let token : Token :=
      match c with
      | '*' => .sign .star
      | '[' => .bracket
      | '.' => .set .all
      | '^' => if dialect.isExtended || atStart then .edge .lineStart else .char c
      | '$' => if dialect.isExtended || endsAlternative r then .edge .lineEnd else .char c
      | c => if dialect.isExtended then (operator? c).getD (.char c) else .char c
    .ok (some (token, r))

/-! ## Counts -/

/-- The greatest count. -/
def maxCount : Nat := 32767

/-- What a bound of a count is. -/
inductive Bound where
  | absent
  | bad
  | number (n : Nat)
  deriving DecidableEq

/-- What ends a bound. -/
inductive BoundEnd where
  | comma
  | close
  | textEnd
  deriving DecidableEq

/-- The bound of a count when one more character was read. -/
def Bound.extend (bound : Bound) (c : Char) : Bound :=
  if !c.isDigit then .bad
  else
    let digit := c.toNat - '0'.toNat
    match bound with
    | bad => .bad
    | absent => .number digit
    | number n => .number (min (maxCount + 1) (10 * n + digit))

/-- Reads a bound of a count and what ends it. -/
def bound (dialect : Dialect) (found : Bound) : List Char → Bound × BoundEnd × List Char
  | [] => (.bad, .textEnd, [])
  | '\\' :: ',' :: r | ',' :: r => (found, .comma, r)
  | '\\' :: '}' :: r =>
    if dialect.isExtended then bound dialect .bad r else (found, .close, r)
  | '}' :: r => if dialect.isExtended then (found, .close, r) else bound dialect .bad r
  | '\\' :: _ :: r => bound dialect .bad r
  | c :: r => bound dialect (found.extend c) r

/-- A count: its bounds, and what follows; none if the brace stands for itself. -/
def count? (dialect : Dialect) (rest : List Char) :
    Except PatternError (Option (Nat × Option Nat × List Char)) :=
  let (first, firstEnd, rest) := bound dialect .absent rest
  let spoiled (ending : BoundEnd) : Except PatternError (Option (Nat × Option Nat × List Char)) :=
    if dialect.isExtended && !dialect.isStrict then .ok none
    else if ending = .textEnd then .error .openCount
    else .error .badCount
  let checked (least : Nat) (most : Option Nat) (rest : List Char) :
      Except PatternError (Option (Nat × Option Nat × List Char)) :=
    if most.any (· < least) then .error .badCount
    else if most.getD least > maxCount then .error .tooBig
    else .ok (some (least, most, rest))
  match first, firstEnd with
  | .absent, .close | .absent, .textEnd => .error .badCount
  | .bad, ending => spoiled ending
  | .number n, .close => checked n (some n) rest
  | .number _, .textEnd => spoiled .textEnd
  | first, .comma =>
    let least := match first with
      | .number n => n
      | _ => 0
    match bound dialect .absent rest with
    | (.bad, ending, _) => spoiled ending
    | (_, .comma, _) | (_, .textEnd, _) => .error .badCount
    | (.absent, .close, rest) => checked least none rest
    | (.number n, .close, rest) => checked least (some n) rest

/-! ## Groups and alternatives -/

/-- What was read of a group, or of the whole pattern. -/
structure Frame where
  /-- The number of the group; zero for the whole pattern. -/
  number : Nat := 0
  /-- The alternatives before the last one. -/
  earlier : Option Pattern := none
  /-- The last alternative without its last item. -/
  before : Pattern := .empty
  /-- The last item, if it can be repeated. -/
  last : Option Pattern := none
  /-- The groups that were closed when this one began: an alternative may refer back to these and to
  its own. -/
  known : List Nat := []
  /-- The groups that were closed in the alternatives before the last one. -/
  collected : List Nat := []

namespace Frame

/-- One pattern after another. -/
def append : Pattern → Pattern → Pattern
  | .empty, p | p, .empty => p
  | p, q => .seq p q

/-- Adds an item that can be repeated. -/
def push (frame : Frame) (item : Pattern) : Frame :=
  { frame with
    before := append frame.before (frame.last.getD .empty)
    last := some item }

/-- Adds an edge, which cannot be repeated, or only if some item that can be stands in front of it.
-/
def pushEdge (repeatsEdges : Bool) (frame : Frame) (edge : Edge) : Frame :=
  if repeatsEdges && frame.last.isSome then frame.push (.edge edge)
  else
    { frame with
      before := append (append frame.before (frame.last.getD .empty)) (.edge edge)
      last := none }

/-- The alternatives as one pattern. -/
def pattern (frame : Frame) : Pattern :=
  let final := append frame.before (frame.last.getD .empty)
  match frame.earlier with
  | some earlier => .either earlier final
  | none => final

/-- Begins another alternative after one in which groups were closed. -/
def next (frame : Frame) (closed : List Nat) : Frame :=
  { number := frame.number
    earlier := some frame.pattern
    known := frame.known
    collected := frame.collected ++ closed }

end Frame

/-- What was read of a pattern. -/
structure Progress where
  dialect : Dialect
  /-- The group that is being read. -/
  frame : Frame := {}
  /-- The groups around it, the innermost first. -/
  outer : List Frame := []
  /-- The number of groups that were begun. -/
  groups : Nat := 0
  /-- The groups that were closed and can be referred to. -/
  closed : List Nat := []
  /-- Nothing was read yet of this alternative. -/
  atStart : Bool := true
  /-- A repetition was read just now. -/
  isRepeated : Bool := false
  /-- A repetition was passed over just now. -/
  isSkipped : Bool := false
  /-- A list that was read is the name of a kind without the second pair of brackets. -/
  hasNakedKind : Bool := false
  /-- The repetitions that were passed over, those before such a list if there is one. -/
  skipped : List String := []

namespace Progress

/-- Adds an item that can be repeated. -/
def push (p : Progress) (item : Pattern) : Progress :=
  { p with
    frame := p.frame.push item
    atStart := false
    isRepeated := false
    isSkipped := false }

/-- Adds a character. -/
def pushChar (p : Progress) (c : Char) : Progress := p.push (.one (.single c))

/-- Passes over a repetition of nothing. -/
def skip (p : Progress) (text : String) : Progress :=
  { p with
    isSkipped := true
    skipped := if p.hasNakedKind then p.skipped else p.skipped ++ [text] }

/-- Repeats the last item. In the basic syntax a strict reader repeats nothing that is repeated. -/
def repeatLast (p : Progress) (item : Pattern) (least : Nat) (most : Option Nat) : Progress :=
  { p with
    frame := { p.frame with last := some (.repeated item least most) }
    isRepeated := true }

/-- A further repetition is refused. -/
def refusesRepeat (p : Progress) : Bool :=
  p.isRepeated && p.dialect.isStrict && !p.dialect.isExtended

/-- Takes a repetition that is spelled by a sign. -/
def takeSign (p : Progress) (sign : Sign) : Except PatternError Progress :=
  match p.frame.last with
  | some item =>
    if sign = .star && p.refusesRepeat then .error .nothingToRepeat
    else .ok (p.repeatLast item sign.least sign.most)
  | none =>
    if !p.dialect.isExtended then .ok (p.pushChar sign.char)
    else if p.dialect.isStrict then .error .nothingToRepeat
    else .ok (p.skip (String.singleton sign.char))

/-- Takes a repetition that is spelled by a count, of which the brace was read. -/
def takeCount (p : Progress) (rest : List Char) : Except PatternError (Progress × List Char) := do
  match p.frame.last with
  | some item =>
    if p.refusesRepeat then throw .nothingToRepeat
    match ← count? p.dialect rest with
    | some (least, most, rest) => return (p.repeatLast item least most, rest)
    | none => return (p.pushChar '{', rest)
  | none =>
    if p.dialect.isStrict then throw .nothingToRepeat
    if !p.dialect.isExtended then return (p.pushChar '{', rest)
    match count? p.dialect rest with
    | .ok (some (least, most, rest)) =>
      return ((p.skip "{...}").repeatLast .empty least most, rest)
    | _ => return ({ p.pushChar '{' with isSkipped := true }, rest)

/-- Closes the group that is being read. Where none is open a lenient reader of the extended syntax
takes the parenthesis for a character, and also where something has to come that is to be repeated.
-/
def closeGroup (p : Progress) : Except PatternError Progress :=
  let isLenient := p.dialect.isExtended && !p.dialect.isStrict
  match p.outer with
  | [] => if isLenient then .ok (p.pushChar ')') else .error .closeGroup
  | frame :: outer =>
    if p.isSkipped then .ok (p.pushChar ')')
    else .ok (
      { p with
        frame := frame.push (.group p.frame.number p.frame.pattern)
        outer
        closed := p.frame.number :: (p.closed ++ p.frame.collected)
        atStart := false
        isRepeated := false })

/-- Takes a token; what follows it is needed for a list and for a count. -/
def take (p : Progress) (token : Token) (rest : List Char) :
    Except PatternError (Progress × List Char) := do
  match token with
  | .char c => return (p.pushChar c, rest)
  | .closeCount => return (p.pushChar '}', rest)
  | .set set => return (p.push (.one set), rest)
  | .bracket =>
    let (set, rest) ← Bracket.read p.dialect.ignoresCase rest
    let hasNakedKind := p.hasNakedKind || Bracket.isNakedKind set.ranges
    return ({ p.push (.one set) with hasNakedKind }, rest)
  | .edge place =>
    return ({ p with
      frame := p.frame.pushEdge (!p.dialect.isStrict) place
      atStart := false
      isRepeated := false
      isSkipped := false }, rest)
  | .reference number =>
    if p.closed.contains number then return (p.push (.again number), rest)
    else throw .badReference
  | .sign sign => return (← p.takeSign sign, rest)
  | .openCount => p.takeCount rest
  | .openGroup =>
    return ({ p with
      frame := { number := p.groups + 1, known := p.closed }
      outer := p.frame :: p.outer
      groups := p.groups + 1
      atStart := true
      isRepeated := false
      isSkipped := false }, rest)
  | .closeGroup => return (← p.closeGroup, rest)
  | .bar =>
    return ({ p with
      frame := p.frame.next p.closed
      closed := p.frame.known
      atStart := true
      isRepeated := false
      isSkipped := false }, rest)

/-- Reads up to the end of the text. -/
def readAll (fuel : Nat) (p : Progress) (rest : List Char) : Except PatternError Progress :=
  match fuel with
  | 0 => .ok p
  | fuel + 1 => do
    match ← token? p.dialect p.atStart rest with
    | none => return p
    | some (token, rest) =>
      let (p, rest) ← p.take token rest
      readAll fuel p rest

end Progress

/-! ## Reading -/

/-- A pattern that was read. -/
structure Reading where
  pattern : Pattern
  /-- The number of its groups. -/
  groups : Nat
  /-- Some list is the name of a kind without the second pair of brackets, which is not what was
  meant. -/
  hasNakedKind : Bool
  /-- The repetitions that were passed over since there was nothing to repeat, those before such a
  list if there is one. -/
  skipped : List String

/-- The pattern that a text spells. -/
def read (dialect : Dialect) (text : List Char) : Except PatternError Reading := do
  let p ← Progress.readAll (text.length + 1) { dialect } text
  if !p.outer.isEmpty then throw .openGroup
  return {
    pattern := p.frame.pattern
    groups := p.groups
    hasNakedKind := p.hasNakedKind
    skipped := p.skipped }

end WideColumn.Pattern
