/-!
# Errors in patterns

What is wrong with a text that spells no pattern.

Main definitions: `PatternError`, `PatternError.message`.
-/

namespace WideColumn

/-- Why a text spells no pattern. -/
inductive PatternError where
  /-- The text ends after an opening bracket. -/
  | malformed
  | unknownKind
  | badCollation
  | trailingBackslash
  /-- A group is referred to that is not closed yet. -/
  | badReference
  | openBracket
  | openGroup
  | closeGroup
  | openCount
  | badCount
  | badRange
  | tooBig
  | nothingToRepeat
  /-- A second pair of brackets is missing around the name of a kind. -/
  | nakedKind
  deriving DecidableEq, Repr

/-- The error in words. -/
def PatternError.message : PatternError → String
  | malformed => "Invalid regular expression"
  | unknownKind => "Invalid character class name"
  | badCollation => "Invalid collation character"
  | trailingBackslash => "Trailing backslash"
  | badReference => "Invalid back reference"
  | openBracket => "Unmatched [, [^, [:, [., or [="
  | openGroup => "Unmatched ( or \\("
  | closeGroup => "Unmatched ) or \\)"
  | openCount => r"Unmatched \{"
  | badCount => r"Invalid content of \{\}"
  | badRange => "Invalid range end"
  | tooBig => "Regular expression too big"
  | nothingToRepeat => "Invalid preceding regular expression"
  | nakedKind => "character class syntax is [[:space:]], not [:space:]"

end WideColumn
