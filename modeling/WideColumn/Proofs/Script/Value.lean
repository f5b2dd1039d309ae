import WideColumn.Text.Digits

/-!
# Values of scripts

A converter is handed a value of the driver and returns one of the model. Both are values of
JavaScript, of which this module has those that a driver can hand out, with what converters do to
them.

Design points:

* An object of a class is known by what its methods return that take no arguments. Nothing else of
  it matters to a converter.
* A plain object is a list of properties in the order in which objects list them: names that are
  array indices first, by number, then the others as they were added. `setProperty` keeps that
  order, and `IsOwnOrder` says that a list of names has it.
* An operation returns nothing where a script would throw an error, and also where what a script
  does is of no concern here, such as reading a date from a text.

Main definitions: `Value`, `Value.method?`, `Value.newDate?`, `Value.iterated?`, `ofEntries`,
`IsOwnOrder`.
-/

namespace WideColumn.Script

open Text

/-- A number, by the bits of the double that it is. -/
structure Number where
  bits : UInt64
  deriving DecidableEq

/-- A value of a script. -/
inductive Value where
  | undefined
  | null
  | boolean (b : Bool)
  | number (n : Number)
  | string (s : String)
  /-- A buffer of bytes. -/
  | buffer (bytes : List UInt8)
  /-- A date object, by the milliseconds since the epoch. An invalid date has no such number. -/
  | date (time : Option Int)
  | array (elements : List Value)
  /-- A plain object, by its properties in order. -/
  | record (properties : List (String × Value))
  /-- An object that is not an array but can be iterated over. -/
  | iterable (elements : List Value)
  /-- An object of a class, by what its methods return. -/
  | object (methods : List (String × Value))

/-! ## Properties of plain objects -/

/-- The number that a property name is the plain numeral of, if that is below the largest length of
an array. -/
def arrayIndex? (name : String) : Option Nat :=
  let index := decimalValue name.toList
  if ofNat index = name.toList ∧ index < 4294967295 then some index else none

/-- The property is listed before the other, although the other was there first. -/
def comesBefore (name other : String) : Bool :=
  match arrayIndex? name, arrayIndex? other with
  | some i, some j => i < j
  | some _, none => true
  | none, _ => false

/-- Gives a property a value. A new one is put where objects list it. -/
def setProperty (name : String) (value : Value) : List (String × Value) → List (String × Value)
  | [] => [(name, value)]
  | (other, old) :: rest =>
    if other = name then (name, value) :: rest
    else if comesBefore name other then (name, value) :: (other, old) :: rest
    else (other, old) :: setProperty name value rest

/-- The properties of the plain object that is made of entries. -/
def ofEntries (entries : List (String × Value)) : List (String × Value) :=
  entries.foldl (fun properties entry => setProperty entry.1 entry.2 properties) []

/-- An object can have these names for its properties, and lists them like this. -/
def IsOwnOrder (names : List String) : Prop :=
  names.Pairwise fun first second => first ≠ second ∧ comesBefore second first = false

instance (names : List String) : Decidable (IsOwnOrder names) :=
  inferInstanceAs (Decidable (names.Pairwise _))

theorem setProperty_last {name : String} (value : Value) {properties : List (String × Value)}
    (h : ∀ p ∈ properties, p.1 ≠ name ∧ comesBefore name p.1 = false) :
    setProperty name value properties = properties ++ [(name, value)] := by
  induction properties with
  | nil => rfl
  | cons p rest ih =>
    obtain ⟨hne, hbefore⟩ := h p List.mem_cons_self
    rw [setProperty, if_neg hne, hbefore, ih fun q hq => h q (List.mem_cons_of_mem p hq)]
    rfl

/-- Entries that are in order already are the properties of the object that is made of them. -/
theorem ofEntries_of_isOwnOrder {entries : List (String × Value)}
    (h : IsOwnOrder (entries.map Prod.fst)) : ofEntries entries = entries := by
  -- The induction goes over the entries that are still to come, after the properties so far.
  have hfold : ∀ (rest properties : List (String × Value)),
      IsOwnOrder ((properties ++ rest).map Prod.fst) →
      rest.foldl (fun properties entry => setProperty entry.1 entry.2 properties) properties =
        properties ++ rest := by
    intro rest
    induction rest with
    | nil => simp
    | cons entry rest ih =>
      intro properties horder
      have hlast : ∀ p ∈ properties, p.1 ≠ entry.1 ∧ comesBefore entry.1 p.1 = false := by
        intro p hp
        rw [List.map_append, List.map_cons] at horder
        exact (List.pairwise_append.mp horder).2.2 p.1 (List.mem_map_of_mem hp) entry.1
          List.mem_cons_self
      rw [List.foldl_cons, setProperty_last entry.2 hlast, ih, List.append_assoc]
      · rfl
      · rwa [List.append_assoc]
  exact hfold entries [] h

/-! ## What scripts do to values -/

namespace Value

/-- The value is `null` or `undefined`. -/
def isNullish : Value → Bool
  | undefined | null => true
  | _ => false

/-- What a method of the value returns when it is called without arguments. -/
def method? (name : String) : Value → Option Value
  | object methods => methods.lookup name
  | string s => if name = "toString" then some (string s) else none
  | _ => none

/-- The new date that is made of the value. -/
def newDate? : Value → Option Value
  | date time => some (date time)
  | null => some (date (some 0))
  | undefined => some (date none)
  | _ => none

/-- The values that come when the value is iterated over. -/
def iterated? : Value → Option (List Value)
  | array elements | iterable elements => some elements
  | _ => none

/-- The entry of a property. -/
def ofEntry (property : String × Value) : Value := array [string property.1, property.2]

/-- The property that the value is an entry of. -/
def entry? : Value → Option (String × Value)
  | array (string name :: value :: _) => some (name, value)
  | _ => none

end Value

end WideColumn.Script
