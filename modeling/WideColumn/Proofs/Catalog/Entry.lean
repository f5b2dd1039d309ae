import WideColumn.Catalog.Fixture
import WideColumn.Proofs.Json.Content
import WideColumn.Proofs.Json.Range

/-!
# Entries of a dump

An object spells an entry if its members are those of the entry, in any order and among others whose
keys carry nothing and whose numbers fit. A text that may be missing is left out, or is `null`, if
it is missing. Then the entry is read back from the object. An object that lacks a member, repeats
one or has no position is no entry.

Main definitions: `Fixture.SpellsEntry`, `Fixture.IsFaulty`.
Main results: `Fixture.entry?_of_spells`, `Fixture.entry?_of_isFaulty`.
-/

namespace WideColumn

open Json (Value Numeral)

/-! ## Members -/

namespace Row

variable {key : String} {members others : List (Option String × Value)} {v : Value}

theorem mem_valuesOf : v ∈ valuesOf key members ↔ (some key, v) ∈ members := by
  simp [valuesOf, Option.ite_none_right_eq_some]

theorem length_valuesOf : (valuesOf key members).length = members.countP (·.1 = some key) := by
  rw [valuesOf, List.length_filterMap_eq_countP]
  refine congrArg (members.countP ·) (funext fun m => ?_)
  by_cases hm : m.1 = some key <;> simp [hm]

theorem valuesOf_eq_nil_iff : valuesOf key members = [] ↔ ∀ m ∈ members, m.1 ≠ some key := by
  simp [valuesOf]

theorem valuesOf_append :
    valuesOf key (members ++ others) = valuesOf key members ++ valuesOf key others :=
  List.filterMap_append

theorem valuesOf_perm (key : String) (h : members.Perm others) :
    (valuesOf key members).Perm (valuesOf key others) :=
  h.filterMap _

/-! ## Positions -/

/-- A position is read back from its numeral. -/
theorem position?_ofInteger (p : Int32) : position? (.number (.ofInteger p.toInt)) = some p := by
  have hlow := p.le_toInt
  have hhigh := p.toInt_lt
  have hrange : -positionLimit ≤ p.toInt ∧ p.toInt < positionLimit := by
    unfold positionLimit
    omega
  simp [position?, Numeral.integer?_ofInteger, hrange]

/-- No other value is read as a position. -/
theorem eq_ofInteger_of_position? (proper : ∀ n ∈ v.numerals, n.IsProper) {p : Int32}
    (h : position? v = some p) : v = .number (.ofInteger p.toInt) := by
  unfold position? at h
  split at h
  · rename_i n
    have hproper := proper n (List.mem_singleton.mpr rfl)
    cases hi : n.integer? with
    | none => simp [hi] at h
    | some i =>
      obtain ⟨⟨hlow, hhigh⟩, rfl⟩ :
          (-positionLimit ≤ i ∧ i < positionLimit) ∧ Int32.ofInt i = p := by
        simpa [hi, Option.ite_none_right_eq_some] using h
      rw [Int32.toInt_ofInt_of_le hlow hhigh, ← Numeral.eq_ofInteger hproper hi]
  · contradiction

end Row
/-! ## Spelling -/

namespace Fixture

open Row

/-- The keys that carry an entry. -/
def keys : List String := "keyspace_name" :: Row.keys

/-- The keys that every entry has. -/
def requiredKeys : List String := ["table_name", "column_name", "kind", "position", "type"]

/-- The members that spell a text that may be missing. -/
inductive SpellsOptional (key : String) : Option String → List (Option String × Value) → Prop
  | absent : SpellsOptional key none []
  | null : SpellsOptional key none [(some key, .null)]
  | text (s : String) : SpellsOptional key (some s) [(some key, .string (some s))]

/-- The members that every row has. A position is written as its decimal digits, after a sign only
if it is negative. -/
def required (row : Row) : List (Option String × Value) :=
  [(some "table_name", .string (some row.tableName)),
    (some "column_name", .string (some row.columnName)),
    (some "kind", .string (some row.kind)),
    (some "position", .number (.ofInteger row.position.toInt)),
    (some "type", .string (some row.type))]

/-- The value nests fewer than a hundred levels, and each of its numbers fits. -/
structure IsBounded (fits : Numeral → Prop) (v : Value) : Prop where
  depth : v.depth < 100
  numerals : ∀ n ∈ v.numerals, fits n

/-- The member carries nothing: its key is none of those of an entry. -/
structure IsExtra (fits : Numeral → Prop) (m : Option String × Value) : Prop where
  key : ∀ key ∈ keys, m.1 ≠ some key
  value : IsBounded fits m.2

/-- The members, in any order, are those that spell the entry and some that carry nothing. -/
inductive SpellsEntry (fits : Numeral → Prop) (entry : FixtureEntry)
    (members : List (Option String × Value)) : Prop
  | members {keyspace order extras : List (Option String × Value)} :
      SpellsOptional "keyspace_name" entry.keyspace keyspace →
      SpellsOptional "clustering_order" entry.row.clusteringOrder order →
      (∀ m ∈ extras, IsExtra fits m) →
      members.Perm (required entry.row ++ (keyspace ++ (order ++ extras))) →
      SpellsEntry fits entry members

/-- The object lacks a member, repeats one, or has something else for a position than a whole number
of 32 bits. -/
inductive IsFaulty (members : List (Option String × Value)) : Prop
  | lacks {key : String} : key ∈ requiredKeys → (∀ m ∈ members, m.1 ≠ some key) → IsFaulty members
  | repeats {key : String} : key ∈ keys → 2 ≤ members.countP (·.1 = some key) → IsFaulty members
  | position {v : Value} : (some "position", v) ∈ members →
      (∀ p : Int32, v ≠ .number (.ofInteger p.toInt)) → IsFaulty members

/-! ## Reading -/

variable {fits : Numeral → Prop} {key : String} {text : Option String} {entry : FixtureEntry}
  {optional members : List (Option String × Value)}

theorem isBounded_null : IsBounded fits .null :=
  ⟨Nat.zero_lt_succ 99, fun _ hn => absurd hn List.not_mem_nil⟩

theorem isBounded_string (text : Option String) : IsBounded fits (.string text) :=
  ⟨Nat.zero_lt_succ 99, fun _ hn => absurd hn List.not_mem_nil⟩

theorem isBounded_position (p : Int32) :
    IsBounded Numeral.IsReadable (.number (.ofInteger p.toInt)) where
  depth := Nat.zero_lt_succ 99
  numerals n hn := by
    have hlow := p.le_toInt
    have hhigh := p.toInt_lt
    obtain rfl := List.mem_singleton.mp hn
    have hword : p.toInt.natAbs ≤ 2 ^ 31 := by omega
    exact Numeral.isReadable_ofInteger (hword.trans_lt (by decide +kernel))

theorem SpellsOptional.isBounded (h : SpellsOptional key text optional) :
    ∀ m ∈ optional, IsBounded fits m.2 := by
  cases h with
  | absent => exact fun m hm => absurd hm List.not_mem_nil
  | null => exact List.forall_mem_singleton.mpr isBounded_null
  | text s => exact List.forall_mem_singleton.mpr (isBounded_string _)

/-- Nothing in an object that spells an entry is deep, and each number in it is readable if those
are that it carries beside the entry. -/
theorem SpellsEntry.isBounded (h : SpellsEntry Numeral.IsReadable entry members) :
    ∀ m ∈ members, IsBounded Numeral.IsReadable m.2 := by
  obtain ⟨hkeyspace, horder, hextras, hperm⟩ := h
  have hrequired : ∀ m ∈ required entry.row, IsBounded Numeral.IsReadable m.2 := by
    simp only [required, List.forall_mem_cons]
    exact ⟨isBounded_string _, isBounded_string _, isBounded_string _, isBounded_position _,
      isBounded_string _, fun m hm => absurd hm List.not_mem_nil⟩
  intro m hm
  simp only [hperm.mem_iff, List.mem_append] at hm
  rcases hm with hm | hm | hm | hm
  · exact hrequired m hm
  · exact hkeyspace.isBounded m hm
  · exact horder.isBounded m hm
  · exact (hextras m hm).value

theorem SpellsOptional.valuesOf_of_ne (h : SpellsOptional key text optional) {other : String}
    (hne : other ≠ key) : valuesOf other optional = [] := by
  cases h <;> simp [valuesOf, Ne.symm hne]

/-- A text that may be missing is read back from what spells it. -/
theorem SpellsOptional.optionalText? (h : SpellsOptional key text optional) {vs : List Value}
    (hvs : vs.Perm (valuesOf key optional)) :
    vs.length ≤ 1 ∧ Row.optionalText? (vs.head?.getD .null) = some text := by
  cases h with
  | absent =>
    obtain rfl := List.perm_nil.mp hvs
    exact ⟨by decide, rfl⟩
  | null | text s =>
    have hone := hvs
    simp only [valuesOf, List.filterMap_cons, List.filterMap_nil, if_true] at hone
    obtain rfl := List.perm_singleton.mp hone
    exact ⟨by simp, rfl⟩

/-- The values of a key are in the parts of an entry, and not among what carries nothing. -/
theorem valuesOf_parts {row : Row} {keyspace order extras : List (Option String × Value)}
    (hextras : ∀ m ∈ extras, IsExtra fits m)
    (hperm : members.Perm (required row ++ (keyspace ++ (order ++ extras)))) (hkey : key ∈ keys) :
    (valuesOf key members).Perm
      (valuesOf key (required row) ++ (valuesOf key keyspace ++ valuesOf key order)) := by
  have hnone : valuesOf key extras = [] :=
    valuesOf_eq_nil_iff.mpr fun m hm => (hextras m hm).key key hkey
  have hvalues := valuesOf_perm key hperm
  rwa [valuesOf_append, valuesOf_append, valuesOf_append, hnone, List.append_nil] at hvalues

theorem entry?_of_spells (h : SpellsEntry fits entry members) :
    entry? (.object members) = some entry := by
  obtain ⟨hkeyspace, horder, hextras, hperm⟩ := h
  have hrequired : ∀ key v, key ∈ requiredKeys → valuesOf key (required entry.row) = [v] →
      valuesOf key members = [v] := by
    intro key v hkey hv
    have hapart : ∀ key ∈ requiredKeys,
        key ∈ keys ∧ key ≠ "keyspace_name" ∧ key ≠ "clustering_order" := by decide
    obtain ⟨hmem, hkeyspaceKey, horderKey⟩ := hapart key hkey
    have hvalues := valuesOf_parts hextras hperm hmem
    rw [hv, hkeyspace.valuesOf_of_ne hkeyspaceKey, horder.valuesOf_of_ne horderKey] at hvalues
    exact List.perm_singleton.mp hvalues
  have htable := hrequired "table_name" _ (by decide) rfl
  have hcolumn := hrequired "column_name" _ (by decide) rfl
  have hkind := hrequired "kind" _ (by decide) rfl
  have hposition := hrequired "position" _ (by decide) rfl
  have htype := hrequired "type" _ (by decide) rfl
  have hkeyspaceValues := valuesOf_parts hextras hperm (show "keyspace_name" ∈ keys by decide)
  rw [horder.valuesOf_of_ne (by decide), List.append_nil] at hkeyspaceValues
  have horderValues := valuesOf_parts hextras hperm (show "clustering_order" ∈ keys by decide)
  rw [hkeyspace.valuesOf_of_ne (by decide)] at horderValues
  obtain ⟨hkeyspaceOnce, hkeyspaceText⟩ := hkeyspace.optionalText? hkeyspaceValues
  obtain ⟨horderOnce, horderText⟩ := horder.optionalText? horderValues
  simp [ofMembers, entry?, haveDistinct, Row.keys, htable, hcolumn, hkind, hposition, htype,
    hkeyspaceOnce, horderOnce, hkeyspaceText, horderText, ofValues, text?, position?_ofInteger]

theorem haveDistinct_iff {keys : List String} :
    haveDistinct keys members = true ↔ ∀ key ∈ keys, (valuesOf key members).length ≤ 1 := by
  simp [haveDistinct]

theorem position?_of_ofValues {tableName columnName order kind position type : Value} {row : Row}
    (h : ofValues tableName columnName order kind position type = some row) :
    position? position = some row.position := by
  unfold ofValues at h
  split at h
  · rename_i hposition _
    obtain rfl := Option.some.inj h
    exact hposition
  · contradiction

/-- What an object has that is a row. -/
theorem members_of_ofMembers {row : Row} (h : ofMembers members = some row) :
    (∀ key ∈ Row.keys, (valuesOf key members).length ≤ 1) ∧
      (∀ key ∈ requiredKeys, valuesOf key members ≠ []) ∧
      ∀ v ∈ valuesOf "position" members, position? v = some row.position := by
  unfold ofMembers at h
  dsimp only at h
  split at h
  · contradiction
  · rename_i hdistinct
    have honce := haveDistinct_iff.mp (by simpa using hdistinct)
    split at h
    · rename_i tableName columnName kind position type htable hcolumn hkind hposition htype
      refine ⟨honce, ?_, fun v hv => ?_⟩
      · have hsome : ∀ {key : String} {v : Value}, (valuesOf key members).head? = some v →
            valuesOf key members ≠ [] := by
          intro key v hv hnil
          rw [hnil] at hv
          contradiction
        simp only [requiredKeys, List.forall_mem_cons]
        exact ⟨hsome htable, hsome hcolumn, hsome hkind, hsome hposition, hsome htype, by simp⟩
      · have hlength := honce "position" (by decide)
        obtain ⟨rest, hvalues⟩ := List.head?_eq_some_iff.mp hposition
        rw [hvalues, List.length_cons] at hlength
        obtain rfl : rest = [] := List.eq_nil_of_length_eq_zero (by omega)
        rw [hvalues, List.mem_singleton] at hv
        exact hv ▸ position?_of_ofValues h
    · contradiction

/-- What an object has that is an entry. -/
theorem members_of_entry? (h : entry? (.object members) = some entry) :
    (∀ key ∈ keys, (valuesOf key members).length ≤ 1) ∧
      (∀ key ∈ requiredKeys, valuesOf key members ≠ []) ∧
      ∀ v ∈ valuesOf "position" members, position? v = some entry.row.position := by
  unfold entry? at h
  dsimp only at h
  split at h
  · contradiction
  · rename_i hdistinct
    split at h
    · rename_i row _ hrow
      obtain rfl := Option.some.inj h
      obtain ⟨honce, hrest⟩ := members_of_ofMembers hrow
      refine ⟨List.forall_mem_cons.mpr ⟨?_, honce⟩, hrest⟩
      exact haveDistinct_iff.mp (by simpa using hdistinct) _ List.mem_cons_self
    · contradiction

/-- A faulty object is no entry. -/
theorem entry?_of_isFaulty (proper : ∀ n ∈ Value.numeralsOfMembers members, n.IsProper)
    (h : IsFaulty members) : entry? (.object members) = none := by
  rw [Option.eq_none_iff_forall_ne_some]
  intro entry hentry
  obtain ⟨honce, hrequired, hposition⟩ := members_of_entry? hentry
  cases h with
  | lacks hkey hlacks => exact hrequired _ hkey (valuesOf_eq_nil_iff.mpr hlacks)
  | @repeats key hkey htwice =>
    have hlength := honce key hkey
    rw [length_valuesOf] at hlength
    omega
  | @position v hmem hnone =>
    have hread := hposition v (mem_valuesOf.mpr hmem)
    refine hnone _ (eq_ofInteger_of_position? (fun n hn => proper n ?_) hread)
    exact Value.mem_numeralsOfMembers.mpr ⟨_, hmem, hn⟩

end Fixture

end WideColumn
