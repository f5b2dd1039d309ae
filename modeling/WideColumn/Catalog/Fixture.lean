import WideColumn.Catalog.RowDocument

/-!
# Catalog fixtures

A fixture is a dump of catalog rows that stands in for a cluster. Each entry may name the keyspace
it belongs to; one that does not belongs to every keyspace. The dump is an array of objects, and all
of it is read, so that a fault anywhere in it is found.

Main definitions: `Fixture`, `Fixture.parse?`, `Fixture.fetch`.
-/

namespace WideColumn

open Json (Value)

/-- A catalog row with the keyspace it belongs to, if that is one only. -/
structure FixtureEntry where
  keyspace : Option String
  row : Row
  deriving DecidableEq

/-- A dump of catalog rows. -/
structure Fixture where
  entries : List FixtureEntry

namespace Fixture

/-- Arrays and objects of a dump nest at most this deep. -/
def maxDepth : Nat := 127

/-- The entry that an object spells. -/
def entry? : Value → Option FixtureEntry
  | .object members =>
    if !Row.haveDistinct ["keyspace_name"] members then none
    else
      let keyspace := (Row.valuesOf "keyspace_name" members).head?.getD .null
      match Row.optionalText? keyspace, Row.ofMembers members with
      | some keyspace, some row => some ⟨keyspace, row⟩
      | _, _ => none
  | _ => none

/-- The fixture that a document spells. -/
def parse? (document : String) : Option Fixture :=
  match Json.parse? document.toList with
  | some (.array elements) =>
    if (Value.array elements).depth ≤ maxDepth && (Value.array elements).isExact then
      (elements.mapM entry?).map Fixture.mk
    else none
  | _ => none

/-- The fixture of rows that belong to every keyspace. -/
def ofRows (rows : List Row) : Fixture := ⟨rows.map fun row => ⟨none, row⟩⟩

/-- The entry is one of the keyspace. -/
def belongsTo (keyspace : String) (entry : FixtureEntry) : Bool :=
  entry.keyspace.all (· == keyspace)

/-- The entry is one of the tables; no names stand for all tables. -/
def isAmong (tables : List String) (entry : FixtureEntry) : Bool :=
  tables.isEmpty || tables.contains entry.row.tableName

/-- The rows of some tables of a keyspace, in the order of the dump. -/
def fetch (fixture : Fixture) (keyspace : String) (tables : List String) : List Row :=
  (fixture.entries.filter fun e => belongsTo keyspace e && isAmong tables e).map (·.row)

end Fixture

end WideColumn
