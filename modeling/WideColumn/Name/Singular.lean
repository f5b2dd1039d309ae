import WideColumn.Text.Ascii

/-!
# Singular forms

A table is named for its rows in the plural, a model for one of them in the singular. Only the last
word of a name is inflected: first by lists of words with one form for both numbers and of irregular
plurals, then by its ending. Matching ignores ASCII case, and what replaces an ending takes over the
case of the ending, so capitals stay capitals.

Main definitions: `Name.Irregular`, `Name.singularChars`, `Name.singular`.
-/

namespace WideColumn.Name

open Text

/-! ## Word lists -/

/-- Words whose singular and plural are the same. -/
def uninflected : List String :=
  ["data", "deer", "equipment", "feedback", "fish", "information", "metadata", "news", "series",
   "sheep", "species"]

/-- A plural with a singular of its own. -/
structure Irregular where
  plural : String
  singular : String
  deriving DecidableEq

/-- Plurals that the endings do not explain. -/
def irregulars : List Irregular :=
  [⟨"aliases", "alias"⟩, ⟨"analyses", "analysis"⟩, ⟨"buses", "bus"⟩, ⟨"canoes", "canoe"⟩,
   ⟨"children", "child"⟩, ⟨"cookies", "cookie"⟩, ⟨"crises", "crisis"⟩, ⟨"criteria", "criterion"⟩,
   ⟨"feet", "foot"⟩, ⟨"geese", "goose"⟩, ⟨"halves", "half"⟩, ⟨"indices", "index"⟩,
   ⟨"knives", "knife"⟩, ⟨"leaves", "leaf"⟩, ⟨"lives", "life"⟩, ⟨"matrices", "matrix"⟩,
   ⟨"men", "man"⟩, ⟨"mice", "mouse"⟩, ⟨"movies", "movie"⟩, ⟨"oxen", "ox"⟩, ⟨"people", "person"⟩,
   ⟨"phenomena", "phenomenon"⟩, ⟨"quizzes", "quiz"⟩, ⟨"shelves", "shelf"⟩, ⟨"shoes", "shoe"⟩,
   ⟨"statuses", "status"⟩, ⟨"teeth", "tooth"⟩, ⟨"theses", "thesis"⟩, ⟨"thieves", "thief"⟩,
   ⟨"toes", "toe"⟩, ⟨"vertices", "vertex"⟩, ⟨"viruses", "virus"⟩, ⟨"wives", "wife"⟩,
   ⟨"wolves", "wolf"⟩, ⟨"women", "woman"⟩]

/-- Endings that already read as singular. -/
def singularEndings : List String := ["ss", "us", "is"]

/-- Endings whose `es` marks the plural. -/
def esEndings : List String := ["sses", "shes", "ches", "xes", "zzes", "oes"]

/-! ## Endings -/

/-- The name ends with the given small letters, in any case. -/
def endsWith (name : List Char) (ending : String) : Bool :=
  ending.toList.isSuffixOf (asciiLower name)

/-- Where the last `k` characters begin, a word begins: at the start of the name, after an
underscore, or at an ASCII capital. -/
def wordStartsAt (name : List Char) (k : Nat) : Bool :=
  match name.drop (name.length - k), (name.take (name.length - k)).getLast? with
  | _, none => true
  | [], some before => before = '_'
  | first :: _, some before => first.isUpper || before = '_'

/-- The name ends with the given word, and the word does not begin inside another one. -/
def endsWithWord (name : List Char) (word : String) : Bool :=
  endsWith name word && wordStartsAt name word.toList.length

/-- The replacement in the case of what it replaces: all capital if that was so and had more than
one letter, else with a capital in front if that had one. -/
def inCaseOf (removed replacement : List Char) : List Char :=
  let letters := removed.filter Char.isAlpha
  if !letters.isEmpty && letters.all Char.isUpper && removed.length > 1 then asciiUpper replacement
  else match removed, replacement with
    | first :: _, c :: r => if first.isUpper then c.toUpper :: r else c :: r
    | _, _ => replacement

/-- The name with its last `k` characters replaced. -/
def replaceEnding (name : List Char) (k : Nat) (replacement : String) : List Char :=
  name.take (name.length - k) ++ inCaseOf (name.drop (name.length - k)) replacement.toList

/-! ## The rules -/

/-- The ending `ies` stands for `y` when a character other than a vowel comes before it. -/
def endsWithConsonantIes (name : List Char) : Bool :=
  endsWith name "ies" &&
    match (asciiLower name).reverse.drop 3 with
    | [] => false
    | c :: _ => !(['a', 'e', 'i', 'o', 'u'].contains c)

/-- The singular form of a name by the endings alone. -/
def singularByEnding (name : List Char) : List Char :=
  if singularEndings.any (endsWith name) then name
  else if endsWithConsonantIes name then replaceEnding name 3 "y"
  else if esEndings.any (endsWith name) then replaceEnding name 2 ""
  else if name.length > 1 && endsWith name "s" then replaceEnding name 1 ""
  else name

/-- The singular form of a name: the lists come first. -/
def singularChars (name : List Char) : List Char :=
  if uninflected.any (endsWithWord name) then name
  else match irregulars.find? (fun i => endsWithWord name i.plural) with
    | some i => replaceEnding name i.plural.toList.length i.singular
    | none => singularByEnding name

/-- The singular form of a table or type name. -/
def singular (name : String) : String := String.ofList (singularChars name.toList)

end WideColumn.Name
