import WideColumn.Text.Casing.Table

/-!
# Unicode case mappings of texts

The capital and the small form of a whole text are the full mappings of Unicode: one character may
become several, and a capital sigma that ends a word becomes the final small sigma. ASCII letters
follow the ASCII rule, which the tables need not repeat.

Main definitions: `Text.upperChar`, `Text.lowerChar`, `Text.upper`, `Text.lower`.
-/

namespace WideColumn.Text

/-! ## Single characters -/

/-- The code point moved by the first run that covers it. -/
def shiftedBy (runs : List CaseRun) (c : Char) : Char :=
  match runs.find? (·.covers c.toNat) with
  | some r => Char.ofNat ((c.toNat : Int) + r.shift).toNat
  | none => c

/-- The capital form of a character. -/
def upperChar (c : Char) : List Char :=
  if c.toNat < 128 then [c.toUpper]
  else match upperSequences.lookup c.toNat with
    | some codes => codes.map Char.ofNat
    | none => [shiftedBy upperRuns c]

/-- The small form of a character that stands alone. The dotted capital I keeps its dot as a
combining character. -/
def lowerChar (c : Char) : List Char :=
  if c.toNat < 128 then [c.toLower]
  else if c.toNat = 0x130 then ['i', Char.ofNat 0x307]
  else [shiftedBy lowerRuns c]

theorem upperChar_of_lt {c : Char} (h : c.toNat < 128) : upperChar c = [c.toUpper] := by
  simp [upperChar, h]

theorem lowerChar_of_lt {c : Char} (h : c.toNat < 128) : lowerChar c = [c.toLower] := by
  simp [lowerChar, h]

/-! ## Whole texts -/

/-- The text in capitals. -/
def upper (s : List Char) : List Char := s.flatMap upperChar

/-- The next character that matters for a word's end exists and has case: the characters that case
ignores are skipped first. -/
def startsWithCased (s : List Char) : Bool :=
  match s.dropWhile caseIgnorablePoints.contains with
  | [] => false
  | c :: _ => casedPoints.contains c

/-- The capital sigma, whose small form depends on its place. -/
def capitalSigma : Char := 'Σ'

/-- The small text of `rest`, where `before` is what stands in front of it, nearest character first.
A capital sigma becomes the final form exactly when a cased character stands before it and none
after it. -/
def lowerFrom : (before rest : List Char) → List Char
  | _, [] => []
  | before, c :: r =>
    let small :=
      if c = capitalSigma then
        if startsWithCased before && !startsWithCased r then ['ς'] else ['σ']
      else lowerChar c
    small ++ lowerFrom (c :: before) r

/-- The text in small letters. -/
def lower (s : List Char) : List Char := lowerFrom [] s

end WideColumn.Text
