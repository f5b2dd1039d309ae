/-!
# Patterns

A pattern describes texts: a character of a set, one pattern after another, one of two, one
repeated, the text that a group matched before, or nothing but an edge, such as the beginning of a
line or of a word. Letters, words and blanks are those of ASCII.

Main definitions: `CharKind`, `CharSet`, `Edge`, `Pattern`.
-/

namespace WideColumn

/-! ## Characters -/

/-- A kind of characters that has a name. -/
inductive CharKind where
  | alpha
  | digit
  | alnum
  | upper
  | lower
  | space
  | blank
  | punct
  | print
  | graph
  | cntrl
  | xdigit
  /-- Letters, digits and the underscore. -/
  | word
  deriving DecidableEq, Repr

namespace CharKind

/-- The character has a glyph. -/
def isGraph (c : Char) : Bool := 0x20 < c.toNat && c.toNat < 0x7F

/-- The character is a part of words. -/
def isWord (c : Char) : Bool := c.isAlphanum || c = '_'

/-- The character is of a kind. -/
def contains (c : Char) : CharKind → Bool
  | alpha => c.isAlpha
  | digit => c.isDigit
  | alnum => c.isAlphanum
  | upper => c.isUpper
  | lower => c.isLower
  | space => c = ' ' || (0x09 ≤ c.toNat && c.toNat ≤ 0x0D)
  | blank => c = ' ' || c = '\t'
  | punct => isGraph c && !c.isAlphanum
  | print => isGraph c || c = ' '
  | graph => isGraph c
  | cntrl => c.toNat < 0x20 || c.toNat = 0x7F
  | xdigit => c.isDigit || ('a' ≤ c && c ≤ 'f') || ('A' ≤ c && c ≤ 'F')
  | word => isWord c

/-- The kinds that a list between brackets may name. -/
def named : List (String × CharKind) :=
  [("alpha", alpha), ("digit", digit), ("alnum", alnum), ("upper", upper), ("lower", lower),
    ("space", space), ("blank", blank), ("punct", punct), ("print", print), ("graph", graph),
    ("cntrl", cntrl), ("xdigit", xdigit)]

/-- The kind of a name. -/
def ofName? (name : List Char) : Option CharKind := named.lookup (String.ofList name)

end CharKind

/-- Some characters, as a list between brackets has them. -/
inductive CharRange where
  | between (first last : Char)
  | ofKind (kind : CharKind)
  deriving DecidableEq

/-- The character is in a range. -/
def CharRange.contains (c : Char) : CharRange → Bool
  | between first last => first ≤ c && c ≤ last
  | ofKind kind => kind.contains c

/-- A set of characters: those of some ranges, or all others. -/
structure CharSet where
  ranges : List CharRange
  isNegated : Bool := false
  deriving DecidableEq

namespace CharSet

/-- The set of one character. -/
def single (c : Char) : CharSet := ⟨[.between c c], false⟩

/-- The set of all characters. -/
def all : CharSet := ⟨[], true⟩

/-- The character is in a set, perhaps without regard to the case of letters. -/
def contains (ignoresCase : Bool) (set : CharSet) (c : Char) : Bool :=
  let isListed (c : Char) : Bool := set.ranges.any (·.contains c)
  (isListed c || (ignoresCase && (isListed c.toLower || isListed c.toUpper))) != set.isNegated

end CharSet

/-! ## Patterns -/

/-- A place between characters. -/
inductive Edge where
  | lineStart
  | lineEnd
  | textStart
  | textEnd
  | wordStart
  | wordEnd
  /-- The beginning or the end of a word. -/
  | wordEdge
  | noWordEdge
  deriving DecidableEq, Repr

/-- A description of texts. -/
inductive Pattern where
  | empty
  | one (set : CharSet)
  | edge (edge : Edge)
  /-- What the pattern matches can be referred to by the number. -/
  | group (number : Nat) (inner : Pattern)
  /-- The text that a group matched. -/
  | again (number : Nat)
  | seq (first second : Pattern)
  | either (first second : Pattern)
  /-- The pattern a number of times, between two bounds if there is an upper one. -/
  | repeated (inner : Pattern) (least : Nat) (most : Option Nat)
  deriving DecidableEq

namespace Pattern

/-- The pattern that matches one text. -/
def ofText (s : List Char) : Pattern :=
  s.foldr (fun c rest => match rest with
    | empty => one (.single c)
    | rest => seq (one (.single c)) rest) empty

/-- The pattern refers to what a group matched. -/
def refersBack : Pattern → Bool
  | again _ => true
  | empty | one _ | edge _ => false
  | group _ inner | repeated inner _ _ => inner.refersBack
  | seq first second | either first second => first.refersBack || second.refersBack

/-- The number of groups. -/
def groupCount : Pattern → Nat
  | empty | one _ | edge _ | again _ => 0
  | group _ inner => inner.groupCount + 1
  | repeated inner _ _ => inner.groupCount
  | seq first second | either first second => first.groupCount + second.groupCount

end Pattern

end WideColumn
