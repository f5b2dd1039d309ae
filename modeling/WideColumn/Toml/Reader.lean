/-!
# Readers

A reader takes what it understands from the front of a text and leaves the rest, or fails without
taking anything. An alternative is tried only where the first reader failed, from the same place.

A repetition stops at the first failure, so it never fails itself. Its number of rounds is bounded
by the length of the text, which no repetition reaches as long as every round takes a character.

Main definitions: `Toml.Reader`, `Toml.Reader.satisfy`, `Toml.Reader.many`, `Toml.Reader.sepBy`.
-/

namespace WideColumn.Toml

/-- Takes something from the front of a text. -/
abbrev Reader := StateT (List Char) Option

namespace Reader

variable {α : Type}

/-- Takes one character that the test accepts. -/
def satisfy (p : Char → Bool) : Reader Char := fun
  | c :: r => if p c then some (c, r) else none
  | [] => none

/-- Takes one given character. -/
def char (c : Char) : Reader Char := satisfy (· = c)

/-- Takes a given text. -/
def literal (s : List Char) : Reader Unit := fun rest =>
  if s.isPrefixOf rest then some ((), rest.drop s.length) else none

/-- Takes every character up to the first that the test refuses, which may be none. -/
def takeWhile (p : Char → Bool) : Reader (List Char) := fun rest =>
  some (rest.takeWhile p, rest.dropWhile p)

/-- Takes one character or more that the test accepts. -/
def takeWhile1 (p : Char → Bool) : Reader (List Char) := do
  let c ← satisfy p
  return c :: (← takeWhile p)

/-- Takes exactly so many characters that the test accepts. -/
def exactly (p : Char → Bool) : Nat → Reader (List Char)
  | 0 => pure []
  | n + 1 => do
    let c ← satisfy p
    return c :: (← exactly p n)

/-- Reads something as often as it is there, at most so many times. -/
def manyUpTo (read : Reader α) : Nat → Reader (List α)
  | 0 => pure []
  | n + 1 => (do
      let a ← read
      return a :: (← manyUpTo read n)) <|> pure []

/-- Reads something as often as it is there. Each time takes a character or more. -/
def many (read : Reader α) : Reader (List α) := fun rest => manyUpTo read rest.length rest

/-- Reads one thing or more with separators between them. A separator with nothing after it is left
in the text. -/
def sepBy1 (read : Reader α) (separator : Reader Unit) : Reader (List α) := do
  let a ← read
  return a :: (← many (separator *> read))

/-- Reads any number of things with separators between them. -/
def sepBy (read : Reader α) (separator : Reader Unit) : Reader (List α) :=
  sepBy1 read separator <|> pure []

/-- What a reader makes of a whole text. -/
def parseAll (read : Reader α) (s : List Char) : Option α :=
  match read s with
  | some (a, []) => some a
  | _ => none

end Reader

end WideColumn.Toml
