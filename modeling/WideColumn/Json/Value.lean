import WideColumn.Json.Token

/-!
# JSON values

The second step of reading a document puts its tokens together. It goes through them once with a
stack of what is still open, so that a document nests as deep as it likes; a limit on the depth is
for the reader of the value to set.

An object keeps its members as they are written, also when a key is repeated.

Main definitions: `Json.Value`, `Json.State`, `Json.parse?`, `Json.Value.depth`,
`Json.Value.isExact`.
-/

namespace WideColumn.Json

/-- A value of a document. -/
inductive Value where
  | null
  | bool (value : Bool)
  | number (numeral : Numeral)
  /-- A string with its text, if it has one. -/
  | string (text : Option String)
  | array (elements : List Value)
  /-- An object with its keys and values in order. -/
  | object (members : List (Option String × Value))

/-! ## Reading -/

/-- Something that is open, with what it holds so far, the last first. -/
inductive Frame where
  /-- An array. -/
  | array (elements : List Value)
  /-- An object that waits for the value of a key. -/
  | member (members : List (Option String × Value)) (key : Option String)

/-- What the reader of tokens waits for. -/
inductive State where
  /-- A value; right after an array was opened, it may be closed instead. -/
  | value (isFirst : Bool) (stack : List Frame)
  /-- A key; right after an object was opened, it may be closed instead. -/
  | key (isFirst : Bool) (members : List (Option String × Value)) (stack : List Frame)
  /-- The colon after a key. -/
  | colon (members : List (Option String × Value)) (key : Option String) (stack : List Frame)
  /-- What comes after a value. -/
  | after (value : Value) (stack : List Frame)

/-- The state after one more token, if the token may stand there. -/
def State.step : State → Token → Option State
  | value _ stack, .null => some (after .null stack)
  | value _ stack, .bool b => some (after (.bool b) stack)
  | value _ stack, .number n => some (after (.number n) stack)
  | value _ stack, .string s => some (after (.string s) stack)
  | value _ stack, .openArray => some (value true (.array [] :: stack))
  | value _ stack, .openObject => some (key true [] stack)
  | value true (.array _ :: stack), .closeArray => some (after (.array []) stack)
  | key _ members stack, .string k => some (colon members k stack)
  | key true _ stack, .closeObject => some (after (.object []) stack)
  | colon members k stack, .colon => some (value false (.member members k :: stack))
  | after v (.array elements :: stack), .comma =>
    some (value false (.array (v :: elements) :: stack))
  | after v (.array elements :: stack), .closeArray =>
    some (after (.array (v :: elements).reverse) stack)
  | after v (.member members k :: stack), .comma => some (key false ((k, v) :: members) stack)
  | after v (.member members k :: stack), .closeObject =>
    some (after (.object ((k, v) :: members).reverse) stack)
  | _, _ => none

/-- The state after several tokens. -/
def State.run : State → List Token → Option State
  | state, [] => some state
  | state, token :: rest => (state.step token).bind (run · rest)

/-- The value that the whole text is a document of. -/
def parse? (s : List Char) : Option Value :=
  match (tokens? s).bind (State.run (.value false [])) with
  | some (.after v []) => some v
  | _ => none

/-! ## What a reader may ask of a value -/

namespace Value

mutual

/-- How deep arrays and objects nest. -/
def depth : Value → Nat
  | array elements => depthOfElements elements + 1
  | object members => depthOfMembers members + 1
  | _ => 0

/-- The depth of the deepest element. -/
def depthOfElements : List Value → Nat
  | [] => 0
  | v :: r => max v.depth (depthOfElements r)

/-- The depth of the deepest member. -/
def depthOfMembers : List (Option String × Value) → Nat
  | [] => 0
  | (_, v) :: r => max v.depth (depthOfMembers r)

end

mutual

/-- Every string has a text, and every number fits a double. -/
def isExact : Value → Bool
  | null | bool _ => true
  | number n => !n.overflows
  | string s => s.isSome
  | array elements => areExact elements
  | object members => haveExactMembers members

/-- Every element is exact. -/
def areExact : List Value → Bool
  | [] => true
  | v :: r => v.isExact && areExact r

/-- Every key has a text and every value is exact. -/
def haveExactMembers : List (Option String × Value) → Bool
  | [] => true
  | (k, v) :: r => k.isSome && v.isExact && haveExactMembers r

end

end Value

end WideColumn.Json
