import WideColumn.Pattern.Basic

/-!
# Searching for a pattern

A search goes through a text from the left, and finds the pattern where it matches first. Of the
matches at one place the longest is taken. If the same match comes about in several ways, then what
is in front gets as much as it can: the first part of a sequence, the first round of a repetition,
and what is tried first.

All matches at a place are found at once, as the places that they lead to. From one place to another
only the best way is kept, so the work stays within bounds, unless the pattern refers back to what
a group matched.

Main definitions: `Pattern.Cursor`, `Pattern.reach`, `Pattern.find?`.
-/

namespace WideColumn.Pattern

/-- How a pattern is meant. -/
structure Mode where
  /-- Letters match those of the other case. -/
  ignoresCase : Bool := false
  /-- Lines begin and end at line feeds, and not only where the text does. -/
  isMultiline : Bool := false
  deriving DecidableEq

/-! ## Places -/

/-- A place in a text. -/
structure Cursor where
  /-- The character in front. -/
  previous : Option Char
  /-- The text that follows. -/
  rest : List Char
  /-- The number of characters in front. -/
  position : Nat

namespace Cursor

/-- The beginning of a text. -/
def start (text : List Char) : Cursor := ⟨none, text, 0⟩

/-- The place after the next character. -/
def next? (cursor : Cursor) : Option (Char × Cursor) :=
  match cursor.rest with
  | [] => none
  | c :: r => some (c, ⟨some c, r, cursor.position + 1⟩)

/-- The text up to a later place. -/
def upTo (cursor later : Cursor) : List Char :=
  cursor.rest.take (later.position - cursor.position)

/-- The next character is in front of a word character, or follows one. -/
def isInWord (c : Option Char) : Bool := c.any CharKind.isWord

/-- The place is at an edge. -/
def isAt (mode : Mode) (cursor : Cursor) (edge : Edge) : Bool :=
  let before := isInWord cursor.previous
  let after := isInWord cursor.rest.head?
  match edge with
  | .textStart => cursor.previous.isNone
  | .textEnd => cursor.rest.isEmpty
  | .lineStart => cursor.previous.isNone || (mode.isMultiline && cursor.previous == some '\n')
  | .lineEnd => cursor.rest.isEmpty || (mode.isMultiline && cursor.rest.head? == some '\n')
  | .wordStart => !before && after
  | .wordEnd => before && !after
  | .wordEdge => before != after
  | .noWordEdge => before == after

/-- The places from here to where the set ends, the last one first. `passed` are those before. -/
def run (accepts : Char → Bool) (passed : List Cursor) :
    (previous : Option Char) → (rest : List Char) → (position : Nat) → List Cursor
  | previous, [], position => ⟨previous, [], position⟩ :: passed
  | previous, c :: r, position =>
    let here : Cursor := ⟨previous, c :: r, position⟩
    if accepts c then run accepts (here :: passed) (some c) r (position + 1)
    else here :: passed

end Cursor

/-- A place that a match leads to, and what the groups have matched on the way. -/
structure Reach where
  cursor : Cursor
  groups : List (Nat × List Char)

namespace Reach

/-- What a group has matched. -/
def group? (reach : Reach) (number : Nat) : Option (List Char) := reach.groups.lookup number

/-- Notes what a group has matched since a place. -/
def close (reach : Reach) (number : Nat) (since : Cursor) : Reach :=
  { reach with
    groups := (number, since.upTo reach.cursor) :: reach.groups.filter (·.1 != number) }

/-- Goes over a text, if it follows. -/
def pass? (ignoresCase : Bool) (reach : Reach) : List Char → Option Reach
  | [] => some reach
  | c :: r =>
    match reach.cursor.next? with
    | some (d, cursor) =>
      if c = d || (ignoresCase && c.toLower = d.toLower) then
        pass? ignoresCase { reach with cursor } r
      else none
    | none => none

/-- Of neighbours that lead to the same place the first one is kept, unless groups matter. -/
def thin (groupsMatter : Bool) : List Reach → List Reach
  | [] => []
  | reach :: rest =>
    match thin groupsMatter rest with
    | [] => [reach]
    | other :: kept =>
      if reach.cursor.position = other.cursor.position &&
          (!groupsMatter || reach.groups == other.groups) then reach :: kept
      else reach :: other :: kept

/-- Puts the places that are farther in front, and keeps the best way to each. -/
def sort (groupsMatter : Bool) (reaches : List Reach) : List Reach :=
  match reaches with
  | [] | [_] => reaches
  | _ =>
    thin groupsMatter
      (reaches.mergeSort fun a b => b.cursor.position ≤ a.cursor.position)

/-! ## Rounds -/

/-- Where rounds of a repetition have led already: how many there were, the place, and what groups
matched if that matters. -/
abbrev Visited := List (Nat × Nat × List (Nat × List Char))

/-- How often something is repeated. -/
structure Rounds where
  least : Nat
  most : Option Nat
  groupsMatter : Bool

/-- The number of rounds up to which they are counted: beyond it more rounds make no difference. -/
def Rounds.limit (rounds : Rounds) : Nat := rounds.most.getD (max rounds.least 1)

/-- The places that further rounds lead to from a place where some have led, and all places visited
so far. A round has to go on in the text, but for the first one and for those that are owed. -/
def again (rounds : Rounds) (step : Reach → List Reach) :
    (fuel : Nat) → (count : Nat) → Reach → Visited → List Reach × Visited
  | 0, _, _, visited => ([], visited)
  | fuel + 1, count, reach, visited =>
    let mark := (count, reach.cursor.position, if rounds.groupsMatter then reach.groups else [])
    if visited.contains mark then ([], visited)
    else
      let isLast := rounds.most == some count
      let isOwed := count < max rounds.least 1
      let further := if isLast then [] else (step reach).filter fun r =>
        isOwed || r.cursor.position != reach.cursor.position
      let (found, visited) := further.foldl
        (fun (found, visited) r =>
          let (more, visited) :=
            again rounds step fuel (min (count + 1) rounds.limit) r visited
          (found ++ more, visited))
        ([], mark :: visited)
      (if rounds.least ≤ count then found ++ [reach] else found, visited)

end Reach

/-! ## Matching -/

/-- The places that a match of a pattern leads to, those that are farther in front. -/
def reach (mode : Mode) (groupsMatter : Bool) : Pattern → Reach → List Reach
  | empty, from_ => [from_]
  | one set, from_ =>
    match from_.cursor.next? with
    | some (c, cursor) =>
      if set.contains mode.ignoresCase c then [{ from_ with cursor }] else []
    | none => []
  | edge e, from_ => if from_.cursor.isAt mode e then [from_] else []
  | group number inner, from_ =>
    (inner.reach mode groupsMatter from_).map (·.close number from_.cursor)
  | again number, from_ =>
    match from_.group? number with
    | some text => (from_.pass? mode.ignoresCase text).toList
    | none => []
  | seq first second, from_ =>
    Reach.sort groupsMatter
      ((first.reach mode groupsMatter from_).flatMap (second.reach mode groupsMatter))
  | either first second, from_ =>
    Reach.sort groupsMatter
      (first.reach mode groupsMatter from_ ++ second.reach mode groupsMatter from_)
  | repeated (one set) least most, from_ =>
    let places := Cursor.run (set.contains mode.ignoresCase) [] from_.cursor.previous
      from_.cursor.rest from_.cursor.position
    let isInBounds (cursor : Cursor) : Bool :=
      let count := cursor.position - from_.cursor.position
      least ≤ count && most.all (count ≤ ·)
    (places.filter isInBounds).map ({ from_ with cursor := · })
  | repeated inner least most, from_ =>
    let fuel := (from_.cursor.rest.length + 2) * (max least (most.getD 1) + 2)
    Reach.sort groupsMatter
      (Reach.again ⟨least, most, groupsMatter⟩ (inner.reach mode groupsMatter) fuel 0 from_ []).1

/-! ## Searching -/

/-- A part of a text that a pattern matches. -/
structure Match where
  start : Cursor
  stop : Cursor
  groups : List (Nat × List Char)

namespace Match

/-- The text that was matched. -/
def text (m : Match) : List Char := m.start.upTo m.stop

/-- The text of a group, which is empty if the group took no part. Number zero stands for the whole
match. -/
def group (m : Match) (number : Nat) : List Char :=
  if number = 0 then m.text else (m.groups.lookup number).getD []

/-- The match has no characters. -/
def isEmpty (m : Match) : Bool := m.start.position = m.stop.position

end Match

/-- The matches of a pattern at a place, the longest first. -/
def matchesAt (mode : Mode) (pattern : Pattern) (cursor : Cursor) : List Match :=
  (pattern.reach mode pattern.refersBack ⟨cursor, []⟩).map fun r => ⟨cursor, r.cursor, r.groups⟩

/-- The first of the places from here on where something is found. -/
def firstFrom (look : Cursor → Option Match) :
    (previous : Option Char) → (rest : List Char) → (position : Nat) → Option Match
  | previous, [], position => look ⟨previous, [], position⟩
  | previous, c :: r, position =>
    match look ⟨previous, c :: r, position⟩ with
    | some m => some m
    | none => firstFrom look (some c) r (position + 1)

/-- The first match of a pattern from a place on that fulfils a condition, and of those at one place
the longest. -/
def findThat? (mode : Mode) (accepts : Match → Bool) (pattern : Pattern) (cursor : Cursor) :
    Option Match :=
  firstFrom (fun c => (pattern.matchesAt mode c).find? accepts) cursor.previous cursor.rest
    cursor.position

/-- The first match of a pattern from a place on, and of those at one place the longest. -/
def find? (mode : Mode) (pattern : Pattern) (cursor : Cursor) : Option Match :=
  pattern.findThat? mode (fun _ => true) cursor

end WideColumn.Pattern
