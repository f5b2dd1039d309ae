import WideColumn.Log.Record
import WideColumn.Log.ValuePattern
import WideColumn.Text.Ascii
import WideColumn.Text.Blank
import WideColumn.Text.Split

/-!
# Log filters

A filter says which records are shown. It is a list of directives with commas between:

* a level, which is for every area;
* an area with a level, or alone, in which case everything of it is shown; an area is named by the
  beginning of its name;
* either of these with a condition in brackets: a span that a record is in, or in braces a field
  that it has, perhaps with a value.

Of the directives that are for a record the one with the longest area decides, then one with a field
over one without, then the one whose field comes last by name, and of equals the last.

Main definitions: `Log.Filter`, `Log.Filter.parse?`, `Log.Filter.shows`.
-/

namespace WideColumn.Log

open Text

/-- What a directive asks of a record beside its area. -/
inductive Condition where
  | always
  /-- The record has a field of this name. The message is a field too. -/
  | field (name : String)
  /-- The record was made in a span, or in one whose field has a certain value. Records are made
  outside of all spans. -/
  | span
  deriving DecidableEq

/-- What is shown of the areas whose names begin with a text. -/
structure Directive where
  target : List Char
  condition : Condition := .always
  /-- The lowest level that is shown; without one nothing is. -/
  least : Option Level
  deriving DecidableEq

/-- Which records are shown. -/
structure Filter where
  directives : List Directive
  deriving DecidableEq

/-- The condition holds of a record. -/
def Condition.holds (record : Record) : Condition → Bool
  | always => true
  | field name => name == "message" || record.fields.any (·.name == name)
  | span => false

/-- The name of the field that a condition asks for; empty if it asks for none. -/
def Condition.fieldName : Condition → String
  | field name => name
  | _ => ""

namespace Directive

/-! ## Reading -/

/-- The words for the lowest level that is shown, in the order of their numbers. -/
def thresholds : List (String × Option Level) :=
  [("off", none), ("error", some .error), ("warn", some .warn), ("info", some .info),
    ("debug", some .debug), ("trace", some .trace)]

/-- The lowest level that a text stands for: a number, or a word in any case. -/
def threshold? (s : List Char) : Option (Option Level) :=
  match readBelow? thresholds.length s with
  | some n => thresholds[n]?.map (·.2)
  | none => (thresholds.find? fun (word, _) => eqIgnoringAsciiCase s word.toList).map (·.2)

/-- The level at the end of a directive. If it is left out everything is shown. -/
def finalLevel? : List Char → Option (Option Level)
  | [] => some (some .trace)
  | s => threshold? s

/-- A directive may begin with the character, if not with a bracket. -/
def isStart (c : Char) : Bool := isAlphanumeric c || c = '-' || c = ':' || c = '_'

/-- What stands from one place of a text to another. -/
def cut (text : List Char) (first last : Nat) : List Char := (text.drop first).take (last - first)

/-- The condition that the text between braces spells: the name of a field, or a field with a
value. -/
def fieldCondition? (s : List Char) : Option Condition :=
  match splitAt '=' s with
  | _ :: value :: _ =>
    if ValuePattern.isValid value then some .span else none
  | _ => if s.isEmpty then none else some (.field (String.ofList s))

/-- The directive with a bracket. `place` is the place after the bracket, and `rest` what is left
from there without blanks at the end. -/
def bracketed? (text target : List Char) (place : Nat) (rest : List Char) : Option Directive := do
  let span := rest.takeWhile fun c => c ≠ ']' && c ≠ '{'
  let spanEnd := place + span.length
  let (condition, closing, rest) ←
    match rest.drop span.length with
    | ']' :: r => some (Condition.span, spanEnd, r)
    | '{' :: r =>
      let field := r.takeWhile (· ≠ '}')
      let fieldEnd := spanEnd + 1 + field.length
      match field, r.drop field.length with
      | _ :: _, '}' :: ']' :: r => do
        let condition ← fieldCondition? (cut text (spanEnd + 1) fieldEnd)
        pure (if span.isEmpty then condition else .span, fieldEnd + 1, r)
      | _, _ => none
    | _ => none
  match rest with
  | [] => return { target, condition, least := some .trace }
  | '=' :: _ => return { target, condition, least := ← finalLevel? (text.drop (closing + 2)) }
  | _ => none

/-- The directive that a text spells. The marks in it are looked for as if there were no blanks
around, and then the parts are cut out of the whole text at these places. So blanks in front
displace the parts, and those at the end belong to the last one. -/
def ofText? (text : List Char) : Option Directive :=
  match trim text with
  | [] => none
  | '[' :: rest => bracketed? text [] 1 rest
  | c :: rest =>
    let word := (c :: rest).takeWhile fun c => c ≠ '=' && c ≠ '['
    let place := word.length + 1
    if !isStart c then none
    else
      match (c :: rest).drop word.length with
      | [] =>
        match threshold? text with
        | some least => some { target := [], least }
        | none => some { target := text, least := some .trace }
      | '[' :: rest => bracketed? text (text.take word.length) place rest
      | _ :: _ =>
        (finalLevel? (text.drop place)).map ({ target := text.take word.length, least := · })

/-! ## Use -/

/-- The directive is for a record. -/
def concerns (record : Record) (d : Directive) : Bool :=
  d.target.isPrefixOf record.area.name.toList && d.condition.holds record

/-- The first directive yields to the second, if both are for a record. -/
def yieldsTo (d e : Directive) : Bool :=
  d.target.length < e.target.length ||
    (d.target.length = e.target.length && d.condition.fieldName ≤ e.condition.fieldName)

end Directive

namespace Filter

/-- The filter of one level for every area. -/
def atLeast (level : Level) : Filter := ⟨[{ target := [], least := some level }]⟩

/-- The filter that a text spells. A text without directives stands for errors alone. -/
def parse? (text : String) : Option Filter :=
  match ((splitAt ',' text.toList).filter (!·.isEmpty)).mapM Directive.ofText? with
  | some [] => some (atLeast .error)
  | some directives => some ⟨directives⟩
  | none => none

/-- The directive that decides over a record: of those that are for it the one to which all others
yield. -/
def deciding? (filter : Filter) (record : Record) : Option Directive :=
  (filter.directives.filter (·.concerns record)).foldl
    (fun best d => match best with
      | none => some d
      | some b => if b.yieldsTo d then some d else some b)
    none

/-- The record is shown. -/
def shows (filter : Filter) (record : Record) : Bool :=
  match (filter.deciding? record).bind (·.least) with
  | some least => least.rank ≤ record.level.rank
  | none => false

end Filter

end WideColumn.Log
