import Mathlib.Data.List.Forall2
import WideColumn.Catalog.Source
import WideColumn.Proofs.Catalog.Entry
import WideColumn.Proofs.Command.Load
import WideColumn.Proofs.Json.Reader

/-!
# Reading a dump

A file gives back the entries that it spells: however the document is written, in whatever order its
objects have their members, and whatever else is in them. A file with a faulty object in it gives
nothing at all.

Main definition: `Fixture.SpellsDump`.
Main results: `Fixture.parse?_of_spells`, `Fixture.parse?_of_isFaulty`, `Fixture.load_spelled`.
-/

namespace WideColumn.Fixture

open Json (Value Numeral IsSpacing IsUnit SpellsText SpellsMembers)

/-- The text is a way to write an array of objects that spell the entries, one for one, with no
number beside them that does not fit. -/
def SpellsDump (fits : Numeral → Prop) (text : List Char) (entries : List FixtureEntry) : Prop :=
  ∃ objects : List (List (Option String × Value)),
    List.Forall₂ (SpellsEntry fits) entries objects ∧
      Json.Spells text (.array (objects.map .object))

variable {fits : Numeral → Prop} {entry : FixtureEntry} {entries : List FixtureEntry}
  {elements : List Value} {members : List (Option String × Value)}
  {objects : List (List (Option String × Value))}

/-! ## Documents -/

/-- The entries are read back from the objects that spell them. -/
theorem mapM_entry?_of_spells (h : List.Forall₂ (SpellsEntry fits) entries objects) :
    (objects.map Value.object).mapM entry? = some entries := by
  induction h with
  | nil => rfl
  | cons hentry _ ih =>
    rw [List.map_cons, List.mapM_cons, entry?_of_spells hentry, ih]
    rfl

/-- One object that is no entry is enough for there to be no entries. -/
theorem mapM_entry?_eq_none {v : Value} (hv : v ∈ elements) (h : entry? v = none) :
    elements.mapM entry? = none := by
  induction hv with
  | head rest =>
    rw [List.mapM_cons, h]
    rfl
  | tail w _ ih =>
    rw [List.mapM_cons, ih]
    cases entry? w <;> rfl

/-- A member of an object that spells an entry is bounded. -/
theorem isBounded_of_forall₂
    (h : List.Forall₂ (SpellsEntry Numeral.IsReadable) entries objects) :
    ∀ members ∈ objects, ∀ m ∈ members, IsBounded Numeral.IsReadable m.2 := by
  induction h with
  | nil => exact fun members hmembers => absurd hmembers List.not_mem_nil
  | cons hentry _ ih => exact List.forall_mem_cons.mpr ⟨hentry.isBounded, ih⟩

/-- A document is read as the entries that it spells. -/
theorem parse?_of_spells {document : String}
    (h : SpellsDump Numeral.IsReadable document.toList entries) :
    parse? document = some ⟨entries⟩ := by
  obtain ⟨objects, hentries, hdocument⟩ := h
  have hbounded := isBounded_of_forall₂ hentries
  have hdepth : (Value.array (objects.map .object)).depth ≤ maxDepth := by
    have hobjects : Value.depthOfElements (objects.map .object) ≤ 100 := by
      refine Value.depthOfElements_le_iff.mpr (List.forall_mem_map.mpr fun members hmembers => ?_)
      have hvalues := Value.depthOfMembers_le_iff.mpr fun m hm =>
        Nat.le_of_lt_succ (hbounded members hmembers m hm).depth
      exact Nat.succ_le_succ hvalues
    rw [Value.depth, maxDepth]
    omega
  have hexact : (Value.array (objects.map .object)).isExact = true := by
    refine hdocument.isExact fun n hn => ?_
    obtain ⟨v, hv, hn⟩ := Value.mem_numeralsOfElements.mp hn
    obtain ⟨members, hmembers, rfl⟩ := List.mem_map.mp hv
    obtain ⟨m, hm, hn⟩ := Value.mem_numeralsOfMembers.mp hn
    exact ((hbounded members hmembers m hm).numerals n hn).overflows
  rw [parse?, Json.parse?_of_spells hdocument]
  dsimp only
  rw [if_pos (by simp [hdepth, hexact]), mapM_entry?_of_spells hentries]
  rfl

/-- A document with a faulty object in it is none of a dump. -/
theorem parse?_of_isFaulty {document : String}
    (h : Json.Spells document.toList (.array elements)) (hmem : .object members ∈ elements)
    (hfaulty : IsFaulty members) : parse? document = none := by
  have hproper : ∀ n ∈ Value.numeralsOfMembers members, n.IsProper := fun n hn =>
    h.isProper n (Value.mem_numeralsOfElements.mpr ⟨_, hmem, hn⟩)
  have hnone := mapM_entry?_eq_none hmem (entry?_of_isFaulty hproper hfaulty)
  rw [parse?, Json.parse?_of_spells h]
  dsimp only
  rw [hnone]
  split <;> rfl

/-! ## Writing -/

/-- The member can be written. -/
def IsWritable (m : Option String × Value) : Prop :=
  (∃ key, m.1 = some key) ∧ ∃ s, Json.Spells s m.2

theorem isWritable_text (key text : String) : IsWritable (some key, .string (some text)) := by
  obtain ⟨s, hs⟩ := Json.exists_spellsText text.toList
  exact ⟨⟨key, rfl⟩, _, .string hs⟩

theorem exists_spellsMembers (h : ∀ m ∈ members, IsWritable m) :
    ∃ parts, SpellsMembers parts members := by
  induction members with
  | nil => exact ⟨[], .nil⟩
  | cons m members ih =>
    obtain ⟨⟨⟨key, hkey⟩, s, hs⟩, hrest⟩ := List.forall_mem_cons.mp h
    obtain ⟨name, hname⟩ := Json.exists_spellsText key.toList
    obtain ⟨parts, hparts⟩ := ih hrest
    obtain ⟨k, v⟩ := m
    obtain rfl : k = some key := hkey
    exact ⟨_, .cons Json.isSpacing_nil hname Json.isSpacing_nil hs hparts⟩

/-- A text that may be missing can be written: if it is, it is left out. -/
theorem exists_spellsOptional (key : String) (text : Option String) :
    ∃ optional, SpellsOptional key text optional ∧ ∀ m ∈ optional, IsWritable m := by
  cases text with
  | none => exact ⟨[], .absent, fun m hm => absurd hm List.not_mem_nil⟩
  | some text => exact ⟨_, .text text, List.forall_mem_singleton.mpr (isWritable_text key text)⟩

theorem exists_spellsEntry (entry : FixtureEntry) :
    ∃ members text, SpellsEntry fits entry members ∧ Json.Spells text (.object members) := by
  obtain ⟨keyspace, hkeyspace, hkeyspaceText⟩ :=
    exists_spellsOptional "keyspace_name" entry.keyspace
  obtain ⟨order, horder, horderText⟩ :=
    exists_spellsOptional "clustering_order" entry.row.clusteringOrder
  have hrequired : ∀ m ∈ required entry.row, IsWritable m := by
    simp only [required, List.forall_mem_cons]
    exact ⟨isWritable_text _ _, isWritable_text _ _, isWritable_text _ _,
      ⟨⟨_, rfl⟩, _, Json.spells_ofInt _⟩, isWritable_text _ _,
      fun m hm => absurd hm List.not_mem_nil⟩
  have hall : ∀ m ∈ required entry.row ++ (keyspace ++ (order ++ [])), IsWritable m := by
    simp only [List.forall_mem_append, List.append_nil]
    exact ⟨hrequired, hkeyspaceText, horderText⟩
  have hextras : ∀ m ∈ [], IsExtra fits m := fun m hm => absurd hm List.not_mem_nil
  obtain ⟨parts, hparts⟩ := exists_spellsMembers hall
  exact ⟨_, _, .members hkeyspace horder hextras (.refl _), .object hparts⟩

/-- Every fixture is read from some document. -/
theorem exists_parse? (fixture : Fixture) : ∃ document, parse? document = some fixture := by
  obtain ⟨entries⟩ := fixture
  obtain ⟨objects, parts, hentries, hparts⟩ : ∃ objects parts,
      List.Forall₂ (SpellsEntry Numeral.IsReadable) entries objects ∧
        Json.SpellsAll parts (objects.map Value.object) := by
    induction entries with
    | nil => exact ⟨[], [], .nil, .nil⟩
    | cons entry entries ih =>
      obtain ⟨members, text, hentry, htext⟩ := exists_spellsEntry entry
      obtain ⟨objects, parts, hentries, hparts⟩ := ih
      exact ⟨_, _, .cons hentry hentries, .cons htext hparts⟩
  obtain ⟨document, htext⟩ : ∃ document : String,
      document.toList = '[' :: (Json.commaSeparated parts ++ [']']) :=
    ⟨_, String.toList_ofList⟩
  exact ⟨document, parse?_of_spells ⟨objects, hentries, htext ▸ .array hparts⟩⟩

/-! ## A dump of two entries -/

/-- A workspace that holds one file. -/
def holding (document : String) : Workspace where
  tree := { nodes := [(["dump.json"], .file document)], workingDirectory := [] }

theorem readFile_holding (document : String) :
    (holding document).readFile "dump.json" = .ok document := rfl

/-- An entry of every keyspace, with a clef for the name of a column. -/
def clefEntry : FixtureEntry := ⟨none, "users", "𝄞", none, "regular", -1, "text"⟩

/-- An entry of one keyspace. -/
def roomEntry : FixtureEntry :=
  ⟨some "shop", "rooms", "id", some "none", "partition_key", 0, "uuid"⟩

/-- An object with the given members. -/
def objectText (members : List String) : List Char :=
  '{' :: (Json.commaSeparated (members.map String.toList) ++ ['}'])

/-- The first entry with its members backwards, with escapes, with `null` for the keyspace and a
member that carries nothing. -/
def clefObject (note : String) : List Char := objectText
  ["\"note\":" ++ note, "\"keyspace_name\":null", "\"type\":\"text\"", "\"position\":-1",
    "\"kind\":\"regular\"", "\"column_name\":\"\\uD834\\udd1e\"", "\"table_name\":\"\\u0075sers\""]

/-- The second entry. -/
def roomObject : List Char := objectText
  ["\"table_name\":\"rooms\"", "\"column_name\":\"id\"", "\"kind\":\"partition_key\"",
    "\"position\":0", "\"type\":\"uuid\"", "\"keyspace_name\":\"shop\"",
    "\"clustering_order\":\"none\""]

/-- Both entries, on two lines. -/
def spelledDump : String :=
  String.ofList ('[' :: (clefObject "[1e3,{}]" ++ ",\n ".toList ++ roomObject ++ "]\n".toList))

/-- What the first entry carries beside its own members. -/
def note : Value := .array [.number (Numeral.scaled 1 3), .object []]

theorem spells_note : Json.Spells "[1e3,{}]".toList note := by
  have hthousand := Json.Spells.number (Numeral.spells_scaled 1 3)
  exact .array (.cons hthousand (.cons (.emptyObject Json.isSpacing_nil) .nil))

theorem spells_clef : Json.Spells "\"\\uD834\\udd1e\"".toList (.string (some "𝄞")) := by
  have hhigh : IsUnit "\\uD834".toList (((13 * 16 + 8) * 16 + 3) * 16 + 4) :=
    .digits ⟨by decide, .inr rfl⟩ ⟨by decide, .inl rfl⟩ ⟨by decide, .inl rfl⟩ ⟨by decide, .inl rfl⟩
  have hlow : IsUnit "\\udd1e".toList (((13 * 16 + 13) * 16 + 1) * 16 + 14) :=
    .digits ⟨by decide, .inl rfl⟩ ⟨by decide, .inl rfl⟩ ⟨by decide, .inl rfl⟩ ⟨by decide, .inl rfl⟩
  have hclef : SpellsText "\\uD834\\udd1e".toList "𝄞".toList :=
    .cons (.pair hhigh hlow (by decide) (by decide) (by decide) (by decide) (by decide)) .nil
  exact .string hclef

theorem spells_users : Json.Spells "\"\\u0075sers\"".toList (.string (some "users")) := by
  have hunit : IsUnit "\\u0075".toList (((0 * 16 + 0) * 16 + 7) * 16 + 5) :=
    .digits ⟨by decide, .inl rfl⟩ ⟨by decide, .inl rfl⟩ ⟨by decide, .inl rfl⟩ ⟨by decide, .inl rfl⟩
  have husers : SpellsText ("\\u0075".toList ++ "sers".toList) "users".toList :=
    .cons (.unit hunit) (Json.spellsText_self (by decide))
  exact .string husers

theorem exists_spells_clefObject {note : String} {v : Value} (hnote : Json.Spells note.toList v)
    (hbounded : IsBounded fits v) :
    ∃ members,
      SpellsEntry fits clefEntry members ∧ Json.Spells (clefObject note) (.object members) := by
  have hmembers := SpellsMembers.plain "note" (by decide) hnote <|
    .plain "keyspace_name" (by decide) .null <|
    .plain "type" (by decide) (Json.spells_self "text" (by decide)) <|
    .plain "position" (by decide) (Json.spells_ofInt (-1)) <|
    .plain "kind" (by decide) (Json.spells_self "regular" (by decide)) <|
    .plain "column_name" (by decide) spells_clef <|
    .plain "table_name" (by decide) spells_users .nil
  have hkey : ∀ key ∈ keys, some "note" ≠ some key := by decide
  have hextras : ∀ m ∈ [(some "note", v)], IsExtra fits m :=
    List.forall_mem_singleton.mpr ⟨hkey, hbounded⟩
  have htext : ("\"note\":" ++ note).toList = '"' :: ("note".toList ++ '"' :: ':' :: note.toList) :=
    String.toList_append
  refine ⟨_, .members .null .absent hextras (List.reverse_perm _), ?_⟩
  rw [clefObject, objectText, List.map_cons, htext]
  exact .object hmembers

theorem exists_spells_roomObject (fits : Numeral → Prop) :
    ∃ members, SpellsEntry fits roomEntry members ∧ Json.Spells roomObject (.object members) := by
  have hmembers := SpellsMembers.plain "table_name" (by decide)
      (Json.spells_self "rooms" (by decide)) <|
    .plain "column_name" (by decide) (Json.spells_self "id" (by decide)) <|
    .plain "kind" (by decide) (Json.spells_self "partition_key" (by decide)) <|
    .plain "position" (by decide) (Json.spells_ofInt 0) <|
    .plain "type" (by decide) (Json.spells_self "uuid" (by decide)) <|
    .plain "keyspace_name" (by decide) (Json.spells_self "shop" (by decide)) <|
    .plain "clustering_order" (by decide) (Json.spells_self "none" (by decide)) .nil
  have hextras : ∀ m ∈ [], IsExtra fits m := fun m hm => absurd hm List.not_mem_nil
  exact ⟨_, .members (.text "shop") (.text "none") hextras (.refl _), .object hmembers⟩

theorem spellsDump_spelledDump :
    SpellsDump Numeral.IsReadable spelledDump.toList [clefEntry, roomEntry] := by
  have hthousand : (Numeral.scaled 1 3).IsReadable := by
    have hless : 1 * 10 ^ 3 < Numeral.leastRefused := by decide +kernel
    refine .of_lt ?_
    rw [Numeral.magnitude_scaled]
    exact_mod_cast hless
  have hnote : IsBounded Numeral.IsReadable note :=
    ⟨by decide, List.forall_mem_singleton.mpr hthousand⟩
  obtain ⟨clef, hclef, hclefText⟩ := exists_spells_clefObject spells_note hnote
  obtain ⟨room, hroom, hroomText⟩ := exists_spells_roomObject Numeral.IsReadable
  have hindent : IsSpacing "\n ".toList := by simp [IsSpacing]
  have hend : IsSpacing "\n".toList := by simp [IsSpacing]
  have hdump := Json.Spells.spaced Json.isSpacing_nil hend <| .array <|
    .cons hclefText <| .cons (.spaced hindent Json.isSpacing_nil hroomText) .nil
  refine ⟨[clef, room], .cons hclef (.cons hroom .nil), ?_⟩
  rw [spelledDump, String.toList_ofList]
  simpa [Json.commaSeparated] using hdump

/-! ## Files -/

/-- What comes of loading is what the document in the file spells. -/
theorem load_fst {w : Workspace} {path document : String} (h : w.readFile path = .ok document) :
    (load Workspace.host path w).1 =
      match parse? document with
      | some fixture => .ok fixture
      | none => .error (.malformed path) := by
  have hread : Workspace.host.readFile path w = (.ok document, w) := by
    rw [← h]
    rfl
  unfold load
  rw [bind_apply, hread]
  dsimp only
  cases parse? document <;> rfl

/-- A file gives back the entries that it spells: a request is answered by the rows of those that it
concerns, in the order of the file. A file with a faulty object is refused whole. -/
theorem load_spelled {w : Workspace} {path document : String}
    (hfile : w.readFile path = .ok document) :
    (∀ entries, SpellsDump Numeral.IsReadable document.toList entries →
      ∃ fixture, (load Workspace.host path w).1 = .ok fixture ∧ ∀ keyspace tables,
        fixture.fetch keyspace tables = (entries.filter fun entry =>
          (entry.keyspace = none ∨ entry.keyspace = some keyspace) ∧
            (tables = [] ∨ entry.row.tableName ∈ tables)).map (·.row)) ∧
    (∀ elements members, Json.Spells document.toList (.array elements) →
      .object members ∈ elements → IsFaulty members →
        (load Workspace.host path w).1 = .error (.malformed path)) := by
  refine ⟨fun entries h => ⟨⟨entries⟩, ?_, fun keyspace tables => fetch_eq _ keyspace tables⟩,
    fun elements members h hmem hfaulty => ?_⟩
  · rw [load_fst hfile, parse?_of_spells h]
  · rw [load_fst hfile, parse?_of_isFaulty h hmem hfaulty]

/-- The entries come back from their dump, each for the keyspaces that it is one of, and an object
without members spoils a file. -/
theorem load_spelled_clef :
    (holding spelledDump).readFile "dump.json" = .ok spelledDump ∧
      SpellsDump Numeral.IsReadable spelledDump.toList [clefEntry, roomEntry] ∧
      (∃ fixture, (load Workspace.host "dump.json" (holding spelledDump)).1 = .ok fixture ∧
        fixture.fetch "shop" [] = [clefEntry.row, roomEntry.row] ∧
        fixture.fetch "shop" ["rooms"] = [roomEntry.row] ∧
        fixture.fetch "chat" [] = [clefEntry.row]) ∧
      (holding "[{}]").readFile "dump.json" = .ok "[{}]" ∧
      Json.Spells "[{}]".toList (.array [.object []]) ∧ IsFaulty [] ∧
      (load Workspace.host "dump.json" (holding "[{}]")).1 =
        .error (.malformed "dump.json") := by
  have hread := readFile_holding spelledDump
  have hread' := readFile_holding "[{}]"
  obtain ⟨fixture, hload, hfetch⟩ :=
    (load_spelled hread).1 [clefEntry, roomEntry] spellsDump_spelledDump
  have hempty : Json.Spells "[{}]".toList (.array [.object []]) :=
    .array (.cons (.emptyObject Json.isSpacing_nil) .nil)
  have hfaulty : IsFaulty [] := .lacks (List.mem_cons_self : "table_name" ∈ _) (by simp)
  refine ⟨hread, spellsDump_spelledDump, ⟨fixture, hload, ?_, ?_, ?_⟩, hread', hempty, hfaulty,
    (load_spelled hread').2 _ _ hempty List.mem_cons_self hfaulty⟩
  · rw [hfetch]
    decide
  · rw [hfetch]
    decide
  · rw [hfetch]
    decide

/-- The first entry, with a number beside it that is less than the greatest double. -/
def refusedDump : String :=
  String.ofList ('[' :: (clefObject "17976931348623157081e289" ++ [']']))

/-- A double can hold the number, but the reader does not see that, and the file is refused. -/
theorem load_spelled_refused :
    (holding refusedDump).readFile "dump.json" = .ok refusedDump ∧
      SpellsDump (·.magnitude ≤ Numeral.greatestDouble) refusedDump.toList [clefEntry] ∧
      (load Workspace.host "dump.json" (holding refusedDump)).1 =
        .error (.malformed "dump.json") := by
  have hread := readFile_holding refusedDump
  have hfits : (Numeral.scaled 17976931348623157081 289).magnitude ≤ Numeral.greatestDouble := by
    have hless : 17976931348623157081 * 10 ^ 289 ≤ Numeral.greatestDouble := by decide +kernel
    rw [Numeral.magnitude_scaled]
    exact_mod_cast hless
  have htext : "17976931348623157081e289".toList =
      Text.ofNat 17976931348623157081 ++ 'e' :: Text.ofNat 289 := by decide +kernel
  have hnumber : Json.Spells "17976931348623157081e289".toList
      (.number (Numeral.scaled 17976931348623157081 289)) :=
    htext ▸ .number (Numeral.spells_scaled _ _)
  have hbounded : IsBounded (·.magnitude ≤ Numeral.greatestDouble)
      (.number (Numeral.scaled 17976931348623157081 289)) :=
    ⟨by decide, List.forall_mem_singleton.mpr hfits⟩
  obtain ⟨clef, hclef, hclefText⟩ := exists_spells_clefObject hnumber hbounded
  have hdump := Json.Spells.array (.cons hclefText .nil)
  refine ⟨hread, ⟨[clef], .cons hclef .nil, ?_⟩, ?_⟩
  · rw [refusedDump, String.toList_ofList]
    exact hdump
  · have hnone : (parse? refusedDump).isNone = true := by decide +kernel
    rw [load_fst hread, Option.isNone_iff_eq_none.mp hnone]

end WideColumn.Fixture
