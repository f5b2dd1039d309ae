/-!
# Tables of a document

A document is a table of keys and values, and some values are tables themselves. A table is opened
by a header of its own, or it comes to be because a longer header or a dotted key runs through it,
or it is written out as a value. What may be added to a table later depends on how it came to be, so
every table remembers that.

Main definitions: `Toml.Value`, `Toml.Members`, `Toml.assign`, `Toml.openTable`, `Toml.openElement`.
-/

namespace WideColumn.Toml

/-- How a table came to be. -/
inductive Origin where
  /-- By a header that names it. -/
  | header
  /-- By a header that runs through it. -/
  | implied
  /-- By a dotted key that runs through it. -/
  | dotted
  /-- By being written out as a value. -/
  | inline
  deriving DecidableEq

/-- A value of a document. -/
inductive Value where
  | string (text : String)
  | integer (value : Int)
  /-- A float. No setting is one, so its value is not kept. -/
  | float
  | boolean (value : Bool)
  /-- A date, a time or both. No setting is one, so its value is not kept. -/
  | dateTime
  | array (elements : List Value)
  | table (origin : Origin) (members : List (String × Value))
  /-- An array of tables that each have a header. Only the last can still grow. -/
  | tables (earlier : List (List (String × Value))) (last : List (String × Value))

/-- The keys and values of a table, in the order in which they were added. -/
abbrev Members := List (String × Value)

/-- Gives a key a value in place of the one that it has, or else as the last key. -/
def put (key : String) (value : Value) : Members → Members
  | [] => [(key, value)]
  | (k, v) :: rest => if k = key then (k, value) :: rest else (k, v) :: put key value rest

/-! ## Headers -/

/-- Changes the table that keys lead to, as a header does: through every table that is not written
out as a value, into the last element of an array of tables, and making tables that are missing. -/
def update (change : Members → Option Members) : (keys : List String) → Members → Option Members
  | [], members => change members
  | key :: keys, members =>
    match members.lookup key with
    | none => (update change keys []).map fun inner => put key (.table .implied inner) members
    | some (.table .inline _) => none
    | some (.table origin inner) =>
      (update change keys inner).map fun inner => put key (.table origin inner) members
    | some (.tables earlier last) =>
      (update change keys last).map fun last => put key (.tables earlier last) members
    | some _ => none

/-- Opens a table by its header. It has to be new, but for headers that ran through it. -/
def openTable (key : String) (members : Members) : Option Members :=
  match members.lookup key with
  | none => some (put key (.table .header []) members)
  | some (.table .implied inner) => some (put key (.table .header inner) members)
  | some _ => none

/-- Opens one more element of an array of tables by its header. -/
def openElement (key : String) (members : Members) : Option Members :=
  match members.lookup key with
  | none => some (put key (.tables [] []) members)
  | some (.tables earlier last) => some (put key (.tables (earlier ++ [last]) []) members)
  | some _ => none

/-! ## Keys -/

/-- Gives a new key a value. -/
def define (key : String) (value : Value) (members : Members) : Option Members :=
  if (members.lookup key).isNone then some (put key value members) else none

/-- Gives a dotted key a value. Its parents are tables of dotted keys, or are made so; a parent that
headers made may be run through, but the key is not added to it directly. -/
def assign (key : String) (value : Value) : (parents : List String) → Members → Option Members
  | [], members => define key value members
  | parent :: parents, members =>
    match members.lookup parent with
    | none => (assign key value parents []).map fun inner =>
        put parent (.table .dotted inner) members
    | some (.table .dotted inner) =>
      (assign key value parents inner).map fun inner =>
        put parent (.table .dotted inner) members
    | some (.table .implied inner) =>
      if parents.isEmpty then none
      else (assign key value parents inner).map fun inner =>
        put parent (.table .implied inner) members
    | some (.tables earlier last) =>
      if parents.isEmpty then none
      else (assign key value parents last).map fun last =>
        put parent (.tables earlier last) members
    | some _ => none

end WideColumn.Toml
