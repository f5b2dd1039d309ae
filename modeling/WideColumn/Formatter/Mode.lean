import WideColumn.Disk.Path
import WideColumn.Formatter.Complaint
import WideColumn.Text.Split

/-!
# Changing modes

The program `chmod` changes who may use files. A mode has three bits, to read, to write and to
execute, for each of the owner, the group and all others, and three bits in front with special
meanings. A change is given by octal digits, or by clauses that name whom it is for, an operation
and rights.

Main definitions: `Formatter.Mode.Change`, `Formatter.Mode.changes?`, `Formatter.Mode.adjust`,
`Formatter.Mode.run`.
-/

namespace WideColumn.Formatter.Mode

/-! ## Changes -/

/-- All bits of a mode. -/
def allBits : Nat := 0o7777

/-- The bits that a file does not get unless someone is named. -/
def mask : Nat := 0o022

/-- The special bits that a directory keeps unless they are mentioned. -/
def keptBits : Nat := 0o6000

/-- What is done with the bits. -/
inductive Operation where
  | add
  | remove
  | assign
  deriving DecidableEq

/-- Which bits an operation is about. -/
inductive Rights where
  | bits (bits : Nat)
  /-- The bits, and to execute for those who use a directory or what someone may execute. -/
  | bitsAndSearch (bits : Nat)
  /-- What the owner, the group or the others have, given by their bits. -/
  | copied (whose : Nat)
  deriving DecidableEq

/-- A change of a mode. -/
structure Change where
  /-- The bits of those whom the change is for; zero if nobody is named. -/
  whom : Nat
  operation : Operation
  rights : Rights
  /-- The bits that are spoken of. -/
  mentioned : Nat
  deriving DecidableEq

/-- The bits of a mode that are not in a set. -/
def without (mode bits : Nat) : Nat := mode &&& (allBits ^^^ (bits &&& allBits))

/-- The bits for three kinds of users, given those for one. -/
def forEveryone (bits : Nat) : Nat :=
  (if bits &&& 0o444 > 0 then 0o444 else 0) ||| (if bits &&& 0o222 > 0 then 0o222 else 0) |||
    (if bits &&& 0o111 > 0 then 0o111 else 0)

/-- The mode after a change. -/
def Change.apply (change : Change) (isDirectory : Bool) (mask mode : Nat) : Nat :=
  let kept := if isDirectory then without keptBits change.mentioned else 0
  let bits := match change.rights with
    | .bits bits => bits
    | .bitsAndSearch bits =>
      if isDirectory || mode &&& 0o111 > 0 then bits ||| 0o111 else bits
    | .copied whose => (whose &&& mode) ||| forEveryone (whose &&& mode)
  let reach := if change.whom = 0 then without allBits mask else change.whom
  let bits := without (bits &&& reach) kept
  match change.operation with
  | .add => mode ||| bits
  | .remove => without mode bits
  | .assign =>
    let preserved := (if change.whom = 0 then 0 else without allBits change.whom) ||| kept
    (mode &&& preserved) ||| bits

/-- The mode after some changes. -/
def adjust (changes : List Change) (isDirectory : Bool) (mask mode : Nat) : Nat :=
  changes.foldl (fun mode change => change.apply isDirectory mask mode) mode

/-! ## Reading -/

/-- The operation that a character spells. -/
def operation? : Char → Option Operation
  | '+' => some .add
  | '-' => some .remove
  | '=' => some .assign
  | _ => none

/-- The bits of those whom a letter names. -/
def whom? : Char → Option Nat
  | 'u' => some 0o4700
  | 'g' => some 0o2070
  | 'o' => some 0o1007
  | 'a' => some allBits
  | _ => none

/-- The bits whose owner a letter names. -/
def copied? : Char → Option Nat
  | 'u' => some 0o700
  | 'g' => some 0o070
  | 'o' => some 0o007
  | _ => none

/-- The bits that a letter names. -/
def right? : Char → Option Nat
  | 'r' => some 0o444
  | 'w' => some 0o222
  | 'x' => some 0o111
  | 's' => some 0o6000
  | 't' => some 0o1000
  | 'X' => some 0
  | _ => none

/-- The character is an octal digit. -/
def isOctalDigit (c : Char) : Bool := '0' ≤ c && c ≤ '7'

/-- The mode that octal digits spell. -/
def octal? (digits : List Char) : Option Nat :=
  let mode := digits.foldl (fun n c => 8 * n + (c.toNat - '0'.toNat)) 0
  if !digits.isEmpty && digits.all isOctalDigit && mode ≤ allBits then some mode else none

/-- The rights that follow an operation, the bits that they mention, and what comes after them. -/
def rights? (whom : Nat) (s : List Char) : Option (Nat × Rights × Nat × List Char) :=
  match s with
  | c :: r =>
    if isOctalDigit c then
      let digits := s.takeWhile isOctalDigit
      let rest := s.dropWhile isOctalDigit
      if whom ≠ 0 || !rest.isEmpty then none
      else (octal? digits).map fun mode => (allBits, .bits mode, allBits, rest)
    else
      match copied? c with
      | some whose =>
        some (whom, .copied whose, if whom = 0 then whose else whom &&& whose, r)
      | none => some (letters s)
  | [] => some (letters [])
where
  /-- The rights that letters name. -/
  letters (s : List Char) : Nat × Rights × Nat × List Char :=
    let names := s.takeWhile fun c => (right? c).isSome
    let bits := names.foldl (fun bits c => bits ||| (right? c).getD 0) 0
    let rights := if names.contains 'X' then Rights.bitsAndSearch bits else .bits bits
    (whom, rights, if whom = 0 then bits else whom &&& bits,
      s.dropWhile fun c => (right? c).isSome)

/-- The operations of a clause, from the first one on. -/
def operations? (whom : Nat) : (fuel : Nat) → List Char → Option (List Change)
  | 0, _ => none
  | _ + 1, [] => some []
  | fuel + 1, c :: r => do
    let operation ← operation? c
    let (whom', rights, mentioned, rest) ← rights? whom r
    let later ← operations? whom fuel rest
    return { whom := whom', operation, rights, mentioned } :: later

/-- The changes that a clause spells. -/
def clause? (s : List Char) : Option (List Change) :=
  let names := s.takeWhile fun c => (whom? c).isSome
  let whom := names.foldl (fun bits c => bits ||| (whom? c).getD 0) 0
  match s.dropWhile fun c => (whom? c).isSome with
  | [] => none
  | rest => operations? whom (rest.length + 1) rest

/-- The changes that a text spells. Up to four octal digits leave a directory its special bits. -/
def changes? (s : List Char) : Option (List Change) :=
  match s with
  | c :: _ =>
    if isOctalDigit c then
      (octal? s).map fun mode =>
        let mentioned := if s.length < 5 then (mode &&& keptBits) ||| 0o1777 else allBits
        [{ whom := allBits, operation := .assign, rights := .bits mode, mentioned }]
    else ((Text.splitAt ',' s).mapM clause?).map (·.flatten)
  | [] => none

/-! ## Telling -/

/-- The letters for three bits, where the last one may be joined with a special bit. -/
def triple (bits : Nat) (isSpecial : Bool) (small capital : Char) : List Char :=
  [if bits &&& 4 > 0 then 'r' else '-', if bits &&& 2 > 0 then 'w' else '-',
    if isSpecial then (if bits &&& 1 > 0 then small else capital)
    else if bits &&& 1 > 0 then 'x' else '-']

/-- The letters for a mode. -/
def letters (mode : Nat) : List Char :=
  triple (mode / 64) (mode &&& 0o4000 > 0) 's' 'S' ++
    triple (mode / 8) (mode &&& 0o2000 > 0) 's' 'S' ++
    triple mode (mode &&& 0o1000 > 0) 't' 'T'

/-- The mode in octal digits and in letters. -/
def description (mode : Nat) : String :=
  let digit (n : Nat) : Char := Char.ofNat ('0'.toNat + n % 8)
  String.ofList ([digit (mode / 512), digit (mode / 64), digit (mode / 8), digit mode] ++
    [' ', '('] ++ letters mode ++ [')'])

/-! ## Flags -/

/-- What the flags mean. -/
inductive Meaning where
  | recursive
  | changes
  | silent
  | verbose
  | reference
  /-- The argument is a mode. -/
  | mode
  | rootAllowed
  | rootKept
  | about
  deriving DecidableEq

/-- The letters with which a mode after a dash may begin. -/
def modeLetters : List Char := "rwxXstugoa,+=01234567".toList

/-- The flags. -/
def flags : List (Flag Meaning) :=
  [{ meaning := .recursive, letter := some 'R', word := some "recursive" },
    { meaning := .changes, letter := some 'c', word := some "changes" },
    { meaning := .silent, letter := some 'f', word := some "quiet" },
    { meaning := .rootAllowed, word := some "no-preserve-root" },
    { meaning := .rootKept, word := some "preserve-root" },
    { meaning := .reference, word := some "reference", takes := .value },
    { meaning := .silent, word := some "silent" },
    { meaning := .verbose, letter := some 'v', word := some "verbose" },
    { meaning := .about, word := some "help" },
    { meaning := .about, word := some "version" }] ++
  modeLetters.map fun c => { meaning := .mode, letter := some c, takes := .argument }

/-! ## Changing -/

/-- How modes are changed. -/
structure Plan where
  name : String
  changes : List Change
  isRecursive : Bool
  isSilent : Bool
  tellsChanges : Bool
  tellsAll : Bool
  /-- The user is told if a mask keeps more than a change seems to say. -/
  tellsSurprises : Bool

variable {m : Type → Type} [Monad m]

/-- Changes the mode of what a path leads to, and below it, and tells whether all went well. -/
def change (system : SystemCalls m) (plan : Plan) : (depth : Nat) → String → m Bool
  | 0, _ => return false
  | depth + 1, path => do
    match ← system.status path with
    | .error e =>
      unless plan.isSilent do
        complain system plan.name ("cannot access " ++ shellQuoted path ++ ": " ++ e.words)
      if plan.tellsAll then
        let _ ← system.print (shellQuoted path ++ " could not be accessed\n")
      return false
    | .ok status =>
      let mode := adjust plan.changes status.isDirectory mask status.mode
      -- What the change would come to if no bits were kept from anyone.
      let seeming := adjust plan.changes status.isDirectory 0 status.mode
      let _ ← system.setMode path mode
      let isChanged := mode ≠ status.mode
      if plan.tellsAll || (plan.tellsChanges && isChanged) then
        let text := if isChanged then
            " changed from " ++ description status.mode ++ " to " ++ description mode
          else " retained as " ++ description mode
        let _ ← system.print ("mode of " ++ shellQuoted path ++ text ++ "\n")
      let isSurprising := plan.tellsSurprises && without mode seeming > 0
      if isSurprising then
        complain system plan.name (quotedIfSpecial path ++ ": new permissions are " ++
          String.ofList (letters mode) ++ ", not " ++ String.ofList (letters seeming))
      if plan.isRecursive && status.isDirectory then
        let entries := (← system.entries path).toOption.getD []
        entries.foldlM (fun isDone entry => do
          return (← change system plan depth (Path.join path entry)) && isDone) (!isSurprising)
      else return !isSurprising

/-! ## Running -/

/-- Why modes cannot be changed. -/
inductive CallError where
  | flag (error : FlagError)
  /-- A mode is given, and a file that has it as well. -/
  | twoModes
  | noOperand
  | noOperandAfter (mode : String)
  | badMode (mode : String)
  | reference (file : String) (cause : SystemError)
  deriving DecidableEq

/-- The error in words. -/
def CallError.message : CallError → String
  | flag error => error.message
  | twoModes => "cannot combine mode and --reference options"
  | noOperand => "missing operand"
  | noOperandAfter mode => "missing operand after " ++ plainQuoted mode
  | badMode mode => "invalid mode: " ++ plainQuoted mode
  | reference file cause =>
    "failed to get attributes of " ++ shellQuoted file ++ ": " ++ cause.words

/-- What the modes of some files shall be. -/
inductive Wanted where
  /-- What a text says. -/
  | spelled (mode : String)
  /-- The mode of a file. -/
  | like (file : String)

/-- What the modes of the operands shall be, and the files among the operands. -/
def wanted (given : Given Meaning) : Except CallError (Wanted × List String) := do
  let modes := given.values .mode
  match (given.values .reference).getLast?, modes, given.operands with
  | some _, _ :: _, _ => throw .twoModes
  | some file, [], operands => return (.like file, ← someOf operands .noOperand)
  | none, _ :: _, operands =>
    return (.spelled (",".intercalate modes), ← someOf operands .noOperand)
  | none, [], mode :: operands =>
    return (.spelled mode, ← someOf operands (.noOperandAfter mode))
  | none, [], [] => throw .noOperand
where
  /-- The operands, of which there have to be some. -/
  someOf (operands : List String) (error : CallError) : Except CallError (List String) :=
    if operands.isEmpty then .error error else .ok operands

/-- The changes that lead to a mode. -/
def changesFor (system : SystemCalls m) : Wanted → m (Except CallError (List Change))
  | .spelled mode =>
    return match changes? mode.toList with
      | some changes => .ok changes
      | none => .error (.badMode mode)
  | .like file => do
    match ← system.status file with
    | .error e => return .error (.reference file e)
    | .ok status => return .ok [⟨allBits, .assign, .bits status.mode, allBits⟩]

/-- Changes the modes of the files that the arguments name. -/
def changeAll (system : SystemCalls m) (name : String) (given : Given Meaning) :
    ExceptT CallError m Bool := do
  if let some error := given.error then throw (.flag error)
  let (wanted, files) ← ExceptT.mk (pure (wanted given))
  let changes ← ExceptT.mk (changesFor system wanted)
  let plan : Plan :=
    { name
      changes
      isRecursive := given.has .recursive
      isSilent := given.has .silent
      tellsChanges := given.lastOf? [.changes, .verbose] = some .changes
      tellsAll := given.lastOf? [.changes, .verbose] = some .verbose
      tellsSurprises := given.has .mode }
  files.foldlM (fun isDone file => do
    let path := Path.trimSlashes file
    return (← ExceptT.lift (change system plan Path.maxPathBytes path)) && isDone) true

/-- Runs the program and tells the exit status. -/
def run (system : SystemCalls m) (name : String) (arguments : List String) : m Nat := do
  let given := Flag.scan flags arguments
  if given.has .about then return 0
  match ← (changeAll system name given).run with
  | .ok isDone => return if isDone then 0 else 1
  | .error e =>
    complain system name e.message
    unless e matches .reference .. do pointToHelp system name
    return 1

end WideColumn.Formatter.Mode
