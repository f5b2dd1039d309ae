import WideColumn.Formatter.Complaint
import WideColumn.Text.Digits

/-!
# Conditions

The program `test` tells whether a condition holds: a test of a text, of a file or of two of either,
negated, joined by "and" or "or", with "and" the stronger one, and in parentheses. Up to three
arguments, and some four, are read by their number, and any others as an expression.

Arguments that are no condition are read as far as they are one, and what is wrong then stands where
the reading ended. All tests are made, in order, even if the result is clear before, so of two
faults the first is reported.

Main definitions: `Formatter.Condition`, `Formatter.Condition.read`, `Formatter.Condition.holds`.
-/

namespace WideColumn.Formatter

namespace Condition

/-! ## Operators -/

/-- A comparison of two numbers. -/
inductive Order where
  | eq
  | ne
  | lt
  | le
  | gt
  | ge
  deriving DecidableEq

/-- The comparison of two numbers holds. -/
def Order.holds (a b : Int) : Order → Bool
  | eq => a = b
  | ne => a ≠ b
  | lt => a < b
  | le => a ≤ b
  | gt => b < a
  | ge => b ≤ a

/-- A test of two texts or files. -/
inductive Comparison where
  | sameText
  | otherText
  | numbers (order : Order)
  | newer
  | older
  | sameFile
  deriving DecidableEq

/-- The comparison is one of texts. -/
def Comparison.isOfTexts (comparison : Comparison) : Bool :=
  comparison = .sameText || comparison = .otherText

/-- The spellings of comparisons. -/
def comparisons : List (String × Comparison) :=
  [("=", .sameText), ("==", .sameText), ("!=", .otherText), ("-eq", .numbers .eq),
    ("-ne", .numbers .ne), ("-lt", .numbers .lt), ("-le", .numbers .le), ("-gt", .numbers .gt),
    ("-ge", .numbers .ge), ("-nt", .newer), ("-ot", .older), ("-ef", .sameFile)]

/-- The comparison that a text spells. -/
def comparison? (text : String) : Option Comparison := comparisons.lookup text

/-- A test of a text or a file. -/
inductive Property where
  | isEmpty
  | isNotEmpty
  | exists
  | isFile
  | isDirectory
  | isDevice
  | hasSize
  /-- Everyone who may do everything may also read and write. -/
  | isAccessible
  | isExecutable
  /-- Some bits of the mode are set. -/
  | hasBits (bits : Nat)
  /-- What is of a kind that there is none of here. -/
  | isOfOtherKind
  | isTerminal
  deriving DecidableEq

/-- The letters of tests. -/
def properties : List (Char × Property) :=
  [('z', .isEmpty), ('n', .isNotEmpty), ('e', .exists), ('f', .isFile), ('d', .isDirectory),
    ('s', .hasSize), ('r', .isAccessible), ('w', .isAccessible), ('O', .exists), ('G', .exists),
    ('x', .isExecutable), ('u', .hasBits 0o4000), ('g', .hasBits 0o2000), ('k', .hasBits 0o1000),
    ('c', .isDevice), ('b', .isOfOtherKind), ('h', .isOfOtherKind), ('L', .isOfOtherKind),
    ('p', .isOfOtherKind), ('S', .isOfOtherKind), ('N', .isOfOtherKind), ('t', .isTerminal)]

/-- The letter after a dash that the text is. -/
def dashLetter? (text : String) : Option Char :=
  match text.toList with
  | ['-', c] => some c
  | _ => none

/-! ## Errors -/

/-- Why a condition cannot be told. -/
inductive ConditionError where
  | missingArgument (last : String)
  | noProperty (text : String)
  | noComparison (text : String)
  | extraArgument (text : String)
  | noNumber (text : String)
  | expected
  | expectedNot (found : String)
  /-- A comparison of files is given a length. -/
  | ofFiles (comparison : String)
  deriving DecidableEq

/-- The error in words. -/
def ConditionError.message : ConditionError → String
  | missingArgument last => "missing argument after " ++ plainQuoted last
  | noProperty text => plainQuoted text ++ ": unary operator expected"
  | noComparison text => plainQuoted text ++ ": binary operator expected"
  | extraArgument text => "extra argument " ++ plainQuoted text
  | noNumber text => "invalid integer " ++ plainQuoted text
  | expected => "')' expected"
  | expectedNot found => "')' expected, found " ++ plainQuoted found
  | ofFiles comparison => comparison ++ " does not accept -l"

/-- What stands on a side of a comparison: a text, or one whose length is meant. -/
structure Side where
  text : String
  isLength : Bool := false
  deriving DecidableEq

end Condition

open Condition in
/-- A condition. -/
inductive Condition where
  /-- The text is not empty. -/
  | given (text : String)
  | property (property : Property) (text : String)
  | compare (comparison : Comparison) (left right : Side)
  | not (c : Condition)
  | and (a b : Condition)
  | or (a b : Condition)
  /-- The arguments are no condition from here on. -/
  | fault (error : ConditionError)

namespace Condition

/-! ## Reading -/

/-- What the arguments from some place on shall be read as. -/
inductive Rule where
  /-- A condition of so many arguments. -/
  | counted (count : Nat)
  | disjunction
  | conjunction
  | term
  deriving DecidableEq

/-- A condition that was read, and the arguments after it. -/
abbrev Part := Condition × List String

/-- What is wrong, with nothing left to read. -/
def stop (error : ConditionError) : Part := (.fault error, [])

/-- Changes the condition that was read. -/
def Part.map (part : Part) (change : Condition → Condition) : Part := (change part.1, part.2)

/-- A text that has to be there. -/
def one (last : String) : List String → Part
  | [] => stop (.missingArgument last)
  | text :: rest => (.given text, rest)

/-- A test of one text or file. -/
def unary (last sign : String) (letter : Char) (rest : List String) : Part :=
  match properties.lookup letter, rest with
  | none, _ => stop (.noProperty sign)
  | some _, [] => stop (.missingArgument last)
  | some test, text :: rest => (.property test text, rest)

/-- A condition of two arguments. -/
def two (last : String) : List String → Part
  | "!" :: rest => (one last rest).map .not
  | sign :: rest =>
    match dashLetter? sign with
    | some letter => unary last sign letter rest
    | none => stop (.missingArgument last)
  | [] => stop (.missingArgument last)

/-- A comparison, of which everything up to its sign was read. A length may be on the right side if
something follows it; a comparison of texts takes the sign for its left side then. -/
def binary (left : Side) (sign : String) (comparison : Comparison) : List String → Part
  | "-l" :: text :: rest =>
    let left := if comparison.isOfTexts then ⟨sign, false⟩ else left
    (.compare comparison left ⟨text, true⟩, rest)
  | text :: rest => (.compare comparison left ⟨text, false⟩, rest)
  | [] => stop .expected

/-- What stands at the end of the arguments. -/
structure Ending where
  last : String
  /-- What stands after them, where that is known. -/
  after : Option String

/-- Goes over a closing parenthesis. -/
def close (ending : Ending) (part : Part) : Part :=
  let expected (found : Option String) : ConditionError := found.elim .expected .expectedNot
  match part with
  | (c, ")" :: rest) => (c, rest)
  | (c, []) => (.and c (.fault (expected ending.after)), [])
  | (c, found :: _) => (.and c (.fault (expected found)), [])

/-- The number of arguments up to a closing parenthesis, or of all if there is none soon. -/
def countToClose (rest : List String) : Nat :=
  match rest.tail.idxOf? ")" with
  | some n => if n < 4 then n + 1 else rest.length
  | none => rest.length

/-- Reads a condition. -/
def read (ending : Ending) : (fuel : Nat) → Rule → List String → Part
  | 0, _, _ => stop (.missingArgument ending.last)
  | _ + 1, .counted 1, rest => one ending.last rest
  | _ + 1, .counted 2, rest => two ending.last rest
  | fuel + 1, .counted 3, rest => three fuel rest
  | fuel + 1, .counted 4, rest =>
    match rest with
    | "!" :: rest => (three fuel rest).map .not
    | "(" :: a :: b :: ")" :: rest => close ending (two ending.last (a :: b :: ")" :: rest))
    | rest => read ending fuel .disjunction rest
  | fuel + 1, .counted _, rest => read ending fuel .disjunction rest
  | fuel + 1, .disjunction, rest => joined fuel fuel .conjunction "-o" .or rest
  | fuel + 1, .conjunction, rest => joined fuel fuel .term "-a" .and rest
  | fuel + 1, .term, rest =>
    match rest with
    | [] => stop (.missingArgument ending.last)
    | "!" :: rest => (read ending fuel .term rest).map .not
    | "(" :: [] => stop (.missingArgument ending.last)
    | "(" :: rest => close ending (read ending fuel (.counted (countToClose rest)) rest)
    | "-l" :: text :: sign :: operand :: rest =>
      match comparison? sign with
      | some c => binary ⟨text, true⟩ sign c (operand :: rest)
      | none => simple ("-l" :: text :: sign :: operand :: rest)
    | rest => simple rest
where
  /-- A condition of three arguments. -/
  three (fuel : Nat) (rest : List String) : Part :=
    match rest with
    | a :: sign :: b :: rest =>
      match comparison? sign with
      | some c => binary ⟨a, false⟩ sign c (b :: rest)
      | none =>
        if a = "!" then (two ending.last (sign :: b :: rest)).map .not
        -- A text in parentheses, whatever it is.
        else if a = "(" && b = ")" then (.given sign, rest)
        else if sign = "-a" || sign = "-o" then
          read ending fuel .disjunction (a :: sign :: b :: rest)
        else stop (.noComparison sign)
    | _ => stop (.missingArgument ending.last)
  /-- Conditions of one kind with a sign between. -/
  joined (fuel rounds : Nat) (item : Rule) (sign : String)
      (join : Condition → Condition → Condition) (rest : List String) : Part :=
    match rounds with
    | 0 => stop (.missingArgument ending.last)
    | rounds + 1 =>
      let (first, rest) := read ending fuel item rest
      match rest with
      | s :: rest =>
        if s = sign then (joined fuel rounds item sign join rest).map (join first)
        else (first, s :: rest)
      | [] => (first, [])
  /-- A term without signs around it. -/
  simple (rest : List String) : Part :=
    match rest with
    | [] => stop (.missingArgument ending.last)
    | text :: rest =>
      match rest with
      | sign :: operand :: after =>
        match comparison? sign with
        | some c => binary ⟨text, false⟩ sign c (operand :: after)
        | none => lone text rest
      | _ => lone text rest
  /-- A term that begins with a text and is no comparison. -/
  lone (text : String) (rest : List String) : Part :=
    match dashLetter? text with
    | some letter => unary ending.last text letter rest
    | none => (.given text, rest)

/-- The condition that arguments spell, if there are any. -/
def ofArguments (after : Option String) (arguments : List String) : Condition :=
  let ending : Ending := ⟨arguments.getLast?.getD "", after⟩
  match read ending (4 * arguments.length + 4) (.counted arguments.length) arguments with
  | (c, []) => c
  | (c, extra :: _) => .and c (.fault (.extraArgument extra))

/-! ## Telling -/

variable {m : Type → Type} [Monad m]

/-- The number that a text is, perhaps with a sign and with blanks around it. -/
def number (text : String) : Except ConditionError Int :=
  let isBlank (c : Char) : Bool := c = ' ' || c = '\t'
  let (isNegative, unsigned) := match text.toList.dropWhile isBlank with
    | '-' :: r => (true, r)
    | '+' :: r => (false, r)
    | r => (false, r)
  let digits := unsigned.takeWhile Char.isDigit
  let rest := (unsigned.dropWhile Char.isDigit).dropWhile isBlank
  if digits.isEmpty || !rest.isEmpty then .error (.noNumber text)
  else
    let n : Int := Text.decimalValue digits
    .ok (if isNegative then -n else n)

/-- The number that a side of a comparison stands for. -/
def Side.number (side : Side) : Except ConditionError Int :=
  if side.isLength then .ok side.text.utf8ByteSize else Condition.number side.text

/-- Something is there that fulfils a condition. -/
def isThere (system : SystemCalls m) (path : String) (holds : FileStatus → Bool) : m Bool := do
  match ← system.status path with
  | .ok status => return holds status
  | .error _ => return false

/-- A text or a file passes a test. -/
def passes (system : SystemCalls m) (text : String) : Property → m (Except ConditionError Bool)
  | .isEmpty => return .ok text.isEmpty
  | .isNotEmpty => return .ok !text.isEmpty
  | .exists | .isAccessible => .ok <$> isThere system text fun _ => true
  | .isFile => do
    let isDevice ← system.isDevice text
    .ok <$> isThere system text fun s => !s.isDirectory && !isDevice
  | .isDevice => do
    let isDevice ← system.isDevice text
    .ok <$> isThere system text fun s => !s.isDirectory && isDevice
  | .isDirectory => .ok <$> isThere system text (·.isDirectory)
  | .hasSize => .ok <$> isThere system text (·.size > 0)
  | .isExecutable => .ok <$> isThere system text fun s => s.mode &&& 0o111 > 0
  | .hasBits bits => .ok <$> isThere system text fun s => s.mode &&& bits > 0
  | .isOfOtherKind => return .ok false
  | .isTerminal => return (number text).map fun _ => false

/-- Two texts or files pass a test. -/
def bothPass (system : SystemCalls m) (left right : Side) :
    Comparison → m (Except ConditionError Bool)
  | .sameText => return .ok (left.text = right.text)
  | .otherText => return .ok (left.text ≠ right.text)
  | .numbers order => return do return order.holds (← left.number) (← right.number)
  | .newer => ofFiles "-nt" do
    let a := (← system.status left.text).toOption
    let b := (← system.status right.text).toOption
    return .ok (a.any fun a => b.all (·.lastChange < a.lastChange))
  | .older => ofFiles "-ot" do
    let a := (← system.status left.text).toOption
    let b := (← system.status right.text).toOption
    return .ok (b.any fun b => a.all (·.lastChange < b.lastChange))
  | .sameFile => ofFiles "-ef" do
    let a := (← system.resolve left.text).toOption
    let b := (← system.resolve right.text).toOption
    return .ok (a.isSome && a = b)
where
  /-- A comparison of files, which have no length. -/
  ofFiles (sign : String) (compare : m (Except ConditionError Bool)) :
      m (Except ConditionError Bool) :=
    if left.isLength || right.isLength then return .error (.ofFiles sign) else compare

/-- The condition holds, unless something is wrong with it. -/
def holds (system : SystemCalls m) : Condition → m (Except ConditionError Bool)
  | given text => return .ok !text.isEmpty
  | property test text => passes system text test
  | compare comparison left right => bothPass system left right comparison
  | not c => do return (← c.holds system).map (!·)
  | and a b => joined (a.holds system) (b.holds system) (· && ·)
  | or a b => joined (a.holds system) (b.holds system) (· || ·)
  | fault error => return .error error
where
  /-- Both are told, one after the other. -/
  joined (first second : m (Except ConditionError Bool)) (join : Bool → Bool → Bool) :
      m (Except ConditionError Bool) := do
    match ← first with
    | .error e => return .error e
    | .ok a => return (← second).map (join a)

/-- Tells whether the condition of some arguments holds, as an exit status. -/
def tell (system : SystemCalls m) (name : String) (after : Option String)
    (arguments : List String) : m Nat := do
  if arguments.isEmpty then return 1
  match ← (ofArguments after arguments).holds system with
  | .ok answer => return if answer then 0 else 1
  | .error e =>
    complain system name e.message
    return 2

/-- Runs the program and tells the exit status. -/
def run (system : SystemCalls m) (name : String) (arguments : List String) : m Nat :=
  tell system name none arguments

/-- Runs the program on arguments of which the last is a closing bracket, and tells the exit
status. -/
def runBracket (system : SystemCalls m) (name : String) (arguments : List String) : m Nat := do
  let closing := "]"
  if arguments.getLast? = some closing then tell system name closing arguments.dropLast
  else
    complain system name "missing ']'"
    return 2

end Condition

end WideColumn.Formatter
