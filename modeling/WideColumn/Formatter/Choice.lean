import WideColumn.Formatter.Complaint

/-!
# Choices of formatter programs

The value of a flag may be one of some words. A word may be shortened as long as it is clear what is
chosen: several words may mean the same.

Main definitions: `Formatter.choose`, `Formatter.ChoiceError`.
-/

namespace WideColumn.Formatter

/-- Why a text chooses nothing. -/
inductive ChoiceError where
  | unknown
  /-- Words that mean different things begin with the text. -/
  | ambiguous
  deriving DecidableEq

variable {α : Type} [DecidableEq α]

/-- What a text chooses. -/
def choose (choices : List (String × α)) (text : String) : Except ChoiceError α :=
  match choices.lookup text with
  | some meaning => .ok meaning
  | none =>
    match choices.filter fun (word, _) => text.toList.isPrefixOf word.toList with
    | [] => .error .unknown
    | (_, meaning) :: others =>
      if others.all (·.2 = meaning) then .ok meaning else .error .ambiguous

/-- The words that there are, those that mean the same in one line. -/
def choiceLines (choices : List (String × α)) : List String :=
  (choices.splitBy fun a b => a.2 = b.2).map fun same =>
    "  - " ++ ", ".intercalate (same.map fun (word, _) => plainQuoted word)

/-- The error in words, with all words that there are, for the value of a flag. -/
def ChoiceError.message (choices : List (String × α)) (flag text : String) (error : ChoiceError) :
    String :=
  let kind := match error with
    | unknown => "invalid"
    | ambiguous => "ambiguous"
  "\n".intercalate
    ((kind ++ " argument " ++ plainQuoted text ++ " for '--" ++ flag ++ "'") ::
      "Valid arguments are:" :: choiceLines choices)

end WideColumn.Formatter
