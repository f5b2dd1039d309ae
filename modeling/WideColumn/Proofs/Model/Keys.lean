import WideColumn.Proofs.Model.Fields
import WideColumn.Proofs.Name.Identifier
import WideColumn.Proofs.Script.PropertyName

/-!
# The keys of a model

A model writes the names of columns and of their fields as they are: as keys of properties, and the
fields of converted columns between single quotes, too. The text of a model is cut into chunks here,
so that one can say what the language reads where such a name stands and the rest of the module
follows. The language reads all of them as the names that they are just if the field of every column
is a key that denotes itself, and the name of every converted column is one. Identifiers are such
keys, but names that CQL puts between double quotes need not be.

Main definitions: `Chunk`, `Chunk.AreRead`, `Declaration.chunks`, `Model.chunks`.
Main results: `Model.areRead_of_isIdentifier`, `Model.keys_are_read_iff`.
-/

namespace WideColumn

/-! ## Chunks -/

/-- A chunk of a model. -/
inductive Chunk where
  /-- Text in which no name is looked for. -/
  | verbatim (text : String)
  /-- A name as the key of a property. -/
  | key (name : String)
  /-- A name between single quotes. -/
  | literal (name : String)

namespace Chunk

/-- The chunk as it stands in the model. -/
def text : Chunk → List Char
  | verbatim text => text.toList
  | key name => name.toList
  | literal name => '\'' :: (name.toList ++ ['\''])

/-- In front of the text, the name of the chunk is read as it is and the text is left. -/
def IsRead (d : Script.Dialect) (rest : List Char) : Chunk → Prop
  | verbatim _ => True
  | key name => d.readKey? (name.toList ++ rest) = some (name.toList, rest)
  | literal name =>
    Script.readLiteral? '\'' (name.toList ++ '\'' :: rest) = some (name.toList, rest)

/-- The text of several chunks. -/
def textOf (chunks : List Chunk) : List Char := chunks.flatMap text

/-- All names in chunks are read where they stand in front of the text. -/
def AreRead (d : Script.Dialect) (rest : List Char) : List Chunk → Prop
  | [] => True
  | c :: cs => c.IsRead d (textOf cs ++ rest) ∧ AreRead d rest cs

@[simp] theorem textOf_nil : textOf [] = [] := rfl

theorem textOf_cons (c : Chunk) (cs : List Chunk) : textOf (c :: cs) = c.text ++ textOf cs := rfl

@[simp] theorem text_verbatim (text : String) : (verbatim text).text = text.toList := rfl

@[simp] theorem text_key (name : String) : (key name).text = name.toList := rfl

@[simp] theorem text_literal (name : String) :
    (literal name).text = '\'' :: (name.toList ++ ['\'']) := rfl

theorem textOf_append (cs ds : List Chunk) : textOf (cs ++ ds) = textOf cs ++ textOf ds :=
  List.flatMap_append

theorem textOf_flatMap {α : Type} (f : α → List Chunk) (xs : List α) :
    textOf (xs.flatMap f) = xs.flatMap fun x => textOf (f x) :=
  List.flatMap_assoc

theorem textOf_intercalate (separator : String) (groups : List (List Chunk)) :
    textOf ([verbatim separator].intercalate groups) =
      separator.toList.intercalate (groups.map textOf) := by
  induction groups with
  | nil => rfl
  | cons g groups ih =>
    cases groups with
    | nil => simp
    | cons g' groups =>
      have hseparator : textOf [verbatim separator] = separator.toList := List.append_nil _
      rw [List.intercalate_cons_cons, textOf_append, textOf_append, ih, hseparator]
      simp only [List.map_cons, List.intercalate_cons_cons]

section AreRead

variable (d : Script.Dialect) {rest : List Char}

theorem areRead_append {cs ds : List Chunk} :
    AreRead d rest (cs ++ ds) ↔ AreRead d (textOf ds ++ rest) cs ∧ AreRead d rest ds := by
  induction cs with
  | nil => simp [AreRead]
  | cons c cs ih =>
    rw [List.cons_append, AreRead, AreRead, ih, textOf_append, List.append_assoc, and_assoc]

variable {α : Type} {f : α → List Chunk} {P : α → Prop}

/-- What can be said of each part without what follows can be said of all parts. -/
theorem areRead_flatMap (h : ∀ x rest, AreRead d rest (f x) ↔ P x) {xs : List α} :
    AreRead d rest (xs.flatMap f) ↔ ∀ x ∈ xs, P x := by
  induction xs with
  | nil => simp [AreRead]
  | cons x xs ih => rw [List.flatMap_cons, areRead_append, h, ih, List.forall_mem_cons]

theorem areRead_intercalate (h : ∀ x rest, AreRead d rest (f x) ↔ P x) (separator : String)
    {xs : List α} :
    AreRead d rest ([verbatim separator].intercalate (xs.map f)) ↔ ∀ x ∈ xs, P x := by
  induction xs with
  | nil => simp [AreRead]
  | cons x xs ih =>
    cases xs with
    | nil => simp [h]
    | cons y xs =>
      rw [List.map_cons, List.map_cons, List.intercalate_cons_cons, areRead_append, areRead_append,
        ← List.map_cons, ih, h, List.forall_mem_cons]
      simp [AreRead, IsRead]

end AreRead

end Chunk

open Chunk

/-! ## Declarations -/

/-- A property with the given space in front of it. -/
def Field.chunks (indent : String) (field : Field) : List Chunk :=
  [.verbatim indent, .key field.name, .verbatim (": " ++ field.target.text ++ ";")]

/-- The mapper's entry of a converted column. -/
def ConvertedColumn.chunks (c : ConvertedColumn) : List Chunk :=
  [.verbatim "        ", .key c.column, .verbatim (r": {" ++ "\n          name: "),
   .literal c.field,
   .verbatim (",\n          toModel: " ++ c.conversion.toModel ++ ",\n" ++ r"        }," ++ "\n")]

namespace Declaration

/-- Properties on lines of their own. -/
def fieldChunks (fields : List Field) : List Chunk :=
  fields.flatMap fun field => field.chunks "  " ++ [.verbatim "\n"]

/-- One alternative of the clustering keys. -/
def alternativeChunks (fields : List Field) : List Chunk :=
  .verbatim (r"  | {" ++ "\n") ::
    ([Chunk.verbatim "\n"].intercalate (fields.map (·.chunks "    "))
      ++ [.verbatim ("\n" ++ r"  }")])

/-- The mapper's table of converted columns. -/
def convertedChunks (columns : List ConvertedColumn) : List Chunk :=
  if columns.isEmpty then [.verbatim "      columns: {},\n"]
  else .verbatim (r"      columns: {" ++ "\n") ::
    (columns.flatMap ConvertedColumn.chunks ++ [.verbatim (r"      }," ++ "\n")])

/-- The chunks of a declaration. -/
def chunks : Declaration → List Chunk
  | entity name fields =>
    .verbatim ("export interface " ++ name ++ r" {" ++ "\n") ::
      (fieldChunks fields ++ [.verbatim (r"}" ++ "\n")])
  | partitionKeys fields =>
    if fields.isEmpty then [.verbatim "type PartitionKeys = {};\n"]
    else .verbatim (r"type PartitionKeys = {" ++ "\n") ::
      (fieldChunks fields ++ [.verbatim (r"};" ++ "\n")])
  | clusteringKeys alternatives =>
    .verbatim "type ClusteringKeys =\n" ::
      ([Chunk.verbatim "\n"].intercalate (alternatives.map alternativeChunks)
        ++ [.verbatim ";\n"])
  | mapper name table columns =>
    .verbatim (r"const mapper = new cassandra.mapping.Mapper(dbClient, {" ++ "\n"
        ++ r"  models: {" ++ "\n"
        ++ "    " ++ name ++ r": {" ++ "\n"
        ++ "      tables: ['" ++ table ++ "'],\n"
        ++ "      mappings: new cassandra.mapping.UnderscoreCqlToCamelCaseMappings(),\n") ::
      (convertedChunks columns
        ++ [.verbatim (r"    }," ++ "\n" ++ r"  }," ++ "\n" ++ r"});" ++ "\n")])
  | importDriver => [.verbatim importDriver.text]
  | importClient => [.verbatim importClient.text]
  | accessor name isClustered => [.verbatim (accessor name isClustered).text]
  | model name => [.verbatim (model name).text]
  | exportDefault name => [.verbatim (exportDefault name).text]

/-- The names that a declaration has as keys of properties. -/
def keys : Declaration → List String
  | entity _ fields | partitionKeys fields => fields.map (·.name)
  | clusteringKeys alternatives => alternatives.flatMap fun fields => fields.map (·.name)
  | mapper _ _ columns => columns.map (·.column)
  | importDriver | importClient | accessor _ _ | model _ | exportDefault _ => []

/-- The names of fields that a declaration has between quotes. -/
def literals : Declaration → List String
  | mapper _ _ columns => columns.map (·.field)
  | entity _ _ | partitionKeys _ | clusteringKeys _ | importDriver | importClient | accessor _ _
  | model _ | exportDefault _ => []

/-- The names that a declaration has as keys denote themselves as keys, and so do those that it has
between quotes as literals. -/
def IsLegible (d : Script.Dialect) (decl : Declaration) : Prop :=
  (∀ name ∈ decl.keys, d.isKey name.toList = true) ∧
    ∀ name ∈ decl.literals, Script.isQuotable name.toList = true

/-! ### Texts -/

theorem textOf_field (indent : String) (field : Field) :
    textOf (field.chunks indent) = (fieldText indent field).toList := by
  simp [Field.chunks, textOf, Chunk.text, fieldText]

theorem textOf_fieldChunks (fields : List Field) :
    textOf (fieldChunks fields) = (fieldLines fields).toList := by
  rw [fieldChunks, textOf_flatMap]
  simp [textOf_append, textOf_field, textOf_cons, fieldLines, String.toList_join, List.flatMap_map]

theorem textOf_alternativeChunks (fields : List Field) :
    textOf (alternativeChunks fields) = (alternativeText fields).toList := by
  rw [alternativeChunks, textOf_cons, textOf_append, textOf_intercalate]
  simp [textOf_field, textOf_cons, alternativeText, String.toList_intercalate, Function.comp_def]

theorem textOf_convertedColumn (c : ConvertedColumn) :
    textOf c.chunks = (convertedText c).toList := by
  have htext : convertedText c =
    "        " ++ c.column ++ r": {" ++ "\n" ++ "          name: '" ++ c.field ++ "',\n"
      ++ "          toModel: " ++ c.conversion.toModel ++ ",\n" ++ r"        }," ++ "\n" := rfl
  simp [ConvertedColumn.chunks, textOf_cons, htext]

theorem textOf_convertedChunks (columns : List ConvertedColumn) :
    textOf (convertedChunks columns) = (convertedLines columns).toList := by
  unfold convertedChunks convertedLines
  split
  · rw [textOf_cons, textOf_nil, text_verbatim, List.append_nil]
  · rw [textOf_cons, textOf_append, textOf_flatMap]
    simp [textOf_convertedColumn, textOf_cons, String.toList_join, List.flatMap_map]

/-- The chunks of a declaration are its text. -/
theorem textOf_chunks (decl : Declaration) : textOf decl.chunks = decl.text.toList := by
  rw [← List.append_nil decl.text.toList]
  cases decl with
  | entity name fields =>
    rw [toList_entity, chunks, textOf_cons, textOf_append, textOf_fieldChunks]
    simp [textOf_cons]
  | partitionKeys fields =>
    rw [toList_partitionKeys, chunks]
    cases fields with
    | nil => simp [textOf_cons]
    | cons field fields =>
      rw [if_neg (by simp), textOf_cons, textOf_append, textOf_fieldChunks]
      simp [textOf_cons]
  | clusteringKeys alternatives =>
    rw [toList_clusteringKeys, chunks, textOf_cons, textOf_append, textOf_intercalate]
    simp [textOf_cons, textOf_alternativeChunks, Function.comp_def]
  | mapper name table columns =>
    rw [toList_mapper, chunks, textOf_cons, textOf_append, textOf_convertedChunks, mapperRest]
    simp only [textOf_cons, textOf_nil, text_verbatim, String.toList_append, List.append_assoc]
    rfl
  | importDriver | importClient | accessor _ _ | model _ | exportDefault _ => rfl

theorem isLegible_of_noNames {d : Script.Dialect} {decl : Declaration} (hkeys : decl.keys = [])
    (hliterals : decl.literals = []) : decl.IsLegible d := by
  simp [IsLegible, hkeys, hliterals]

/-! ### Reading -/

section Reading

variable (d : Script.Dialect) {rest : List Char}

/-- The name of a field in front of a colon is read just if it is a key that denotes itself. -/
theorem areRead_field (indent : String) (field : Field) :
    AreRead d rest (field.chunks indent) ↔ d.isKey field.name.toList = true := by
  have hcolon : textOf [.verbatim (": " ++ field.target.text ++ ";")] ++ rest =
      ':' :: (" ".toList ++ field.target.text.toList ++ ";".toList ++ rest) := by
    simp [textOf_cons]
  simp only [Field.chunks, AreRead, IsRead, hcolon, d.readKey?_iff, true_and, and_true]

theorem areRead_fieldChunks (fields : List Field) :
    AreRead d rest (fieldChunks fields) ↔ ∀ field ∈ fields, d.isKey field.name.toList = true := by
  refine areRead_flatMap d fun field rest => ?_
  rw [areRead_append, areRead_field]
  simp [AreRead, IsRead]

theorem areRead_alternativeChunks (fields : List Field) :
    AreRead d rest (alternativeChunks fields) ↔
      ∀ field ∈ fields, d.isKey field.name.toList = true := by
  rw [alternativeChunks, AreRead, areRead_append,
    areRead_intercalate d (fun field rest => areRead_field d "    " field)]
  simp [AreRead, IsRead]

theorem areRead_convertedColumn (c : ConvertedColumn) :
    AreRead d rest c.chunks ↔
      d.isKey c.column.toList = true ∧ Script.isQuotable c.field.toList = true := by
  have hcolon : ∀ cs, textOf (.verbatim (r": {" ++ "\n          name: ") :: cs) ++ rest =
      ':' :: ((r" {" ++ "\n          name: ").toList ++ textOf cs ++ rest) := fun _ => rfl
  simp only [ConvertedColumn.chunks, AreRead, IsRead, hcolon, d.readKey?_iff,
    Script.readLiteral?_iff, true_and, and_true]

theorem areRead_convertedChunks (columns : List ConvertedColumn) :
    AreRead d rest (convertedChunks columns) ↔
      ∀ c ∈ columns, d.isKey c.column.toList = true ∧ Script.isQuotable c.field.toList = true := by
  unfold convertedChunks
  split
  · rename_i hempty
    obtain rfl := List.isEmpty_iff.mp hempty
    simp [AreRead, IsRead]
  · rw [AreRead, areRead_append,
      areRead_flatMap d fun c rest => areRead_convertedColumn d c]
    simp [AreRead, IsRead]

/-- What is read in a declaration does not depend on what follows it. -/
theorem areRead_chunks (decl : Declaration) : AreRead d rest decl.chunks ↔ decl.IsLegible d := by
  unfold IsLegible
  cases decl with
  | entity name fields =>
    rw [chunks, AreRead, areRead_append, areRead_fieldChunks]
    simp [AreRead, IsRead, keys, literals]
  | partitionKeys fields =>
    rw [chunks]
    split
    · rename_i hempty
      obtain rfl := List.isEmpty_iff.mp hempty
      simp [AreRead, IsRead, keys, literals]
    · rw [AreRead, areRead_append, areRead_fieldChunks]
      simp [AreRead, IsRead, keys, literals]
  | clusteringKeys alternatives =>
    rw [chunks, AreRead, areRead_append,
      areRead_intercalate d (fun fields rest => areRead_alternativeChunks d fields)]
    simp only [keys, List.forall_mem_flatMap, List.forall_mem_map]
    simp [AreRead, IsRead, literals]
  | mapper name table columns =>
    rw [chunks, AreRead, areRead_append, areRead_convertedChunks]
    simp [AreRead, IsRead, keys, literals, forall_and]
  | importDriver | importClient | accessor _ _ | model _ | exportDefault _ =>
    simp [chunks, AreRead, IsRead, keys, literals]

end Reading

end Declaration

/-! ## Models -/

namespace Model

open Declaration

/-- The chunks of a model. -/
def chunks (table : Table) (keys : KeyModel) : List Chunk :=
  [Chunk.verbatim "\n"].intercalate
    ((sections table keys).map fun group => group.flatMap Declaration.chunks)

/-- The chunks of a model are its text. -/
theorem textOf_chunks (table : Table) (keys : KeyModel) :
    textOf (chunks table keys) = (render table keys).content.toList := by
  rw [chunks, textOf_intercalate, render, toList_moduleText]
  simp [textOf_flatMap, Declaration.textOf_chunks, Function.comp_def]

/-! ### Columns -/

theorem mem_columns_of_mem_keys {table : Table} {kind : ColumnKind} {c : Column}
    (h : c ∈ table.keys kind) : c ∈ table.columns :=
  (List.mem_filter.mp ((List.mergeSort_perm _ _).mem_iff.mp h)).1

theorem mem_convertedColumns {columns : List Column} {converted : ConvertedColumn} :
    converted ∈ convertedColumns columns ↔
      ∃ c ∈ columns, ∃ conversion, c.type.conversion = some conversion ∧
        ⟨c.name, Name.camel c.name, conversion⟩ = converted := by
  simp [convertedColumns, List.mem_filterMap]

section Reading

variable (d : Script.Dialect) (table : Table)

/-- All names of a model are read just if those of its declarations are. -/
theorem areRead_declarations (keys : KeyModel) :
    AreRead d [] (chunks table keys) ↔
      ∀ decl ∈ declarations table keys, decl.IsLegible d := by
  have hgroup : ∀ (group : List Declaration) rest,
      AreRead d rest (group.flatMap Declaration.chunks) ↔ ∀ decl ∈ group, decl.IsLegible d :=
    fun group rest => areRead_flatMap d fun decl rest => areRead_chunks d decl
  rw [chunks, areRead_intercalate d hgroup, declarations, List.forall_mem_flatten]

/-- The field of the column is a key, and so is its name if the mapper converts the column. -/
def HasKeys (c : Column) : Prop :=
  d.isKey (Name.camel c.name).toList = true ∧
    (c.type.conversion.isSome = true → d.isKey c.name.toList = true)

variable {d table}

theorem isKey_of_mem_fields (h : ∀ c ∈ table.columns, HasKeys d c) {chosen : List Column}
    (sub : ∀ c ∈ chosen, c ∈ table.columns) :
    ∀ name ∈ chosen.map fun c => Name.camel c.name, d.isKey name.toList = true := by
  intro name hname
  obtain ⟨c, hc, rfl⟩ := List.mem_map.mp hname
  exact (h c (sub c hc)).1

theorem isKey_of_mem_keyFields (h : ∀ c ∈ table.columns, HasKeys d c) (kind : ColumnKind) :
    ∀ name ∈ (((table.keys kind).map KeyField.ofColumn).map keyField).map (·.name),
      d.isKey name.toList = true := by
  rw [names_keyFields]
  exact isKey_of_mem_fields h fun c hc => mem_columns_of_mem_keys hc

theorem isKey_of_mem_clusteringKeys (h : ∀ c ∈ table.columns, HasKeys d c) :
    ∀ name ∈ (clusteringKeys
        ((KeyModel.ofTable table).clusteringPrefixes.map (·.map keyField))).keys,
      d.isKey name.toList = true := by
  intro name hname
  obtain ⟨fields, hfields, hname⟩ := List.mem_flatMap.mp hname
  obtain ⟨choice, hchoice, rfl⟩ := List.mem_map.mp hfields
  have hsub := ((sublist_of_mem_prefixesOf hchoice).map keyField).map (·.name)
  exact isKey_of_mem_keyFields h .clustering name (hsub.subset hname)

/-- The fields of the mapper are keys elsewhere in the model, so they can stand between quotes. -/
theorem isLegible_mapper (h : ∀ c ∈ table.columns, HasKeys d c) (name : String) :
    (mapper name table.name (convertedColumns table.columns)).IsLegible d := by
  constructor
  · intro name hname
    obtain ⟨converted, hconverted, rfl⟩ := List.mem_map.mp hname
    obtain ⟨c, hc, conversion, hconversion, rfl⟩ := mem_convertedColumns.mp hconverted
    exact (h c hc).2 (Option.isSome_of_eq_some hconversion)
  · intro name hname
    obtain ⟨converted, hconverted, rfl⟩ := List.mem_map.mp hname
    obtain ⟨c, hc, conversion, -, rfl⟩ := mem_convertedColumns.mp hconverted
    exact d.isQuotable_of_isKey (h c hc).1

variable (d table)

/-- All names of a model are read just if the columns have keys. The interface has the fields of all
columns, and the mapper the names of the columns that it converts; the rest are fields, too. -/
theorem areRead_iff :
    AreRead d [] (chunks table (.ofTable table)) ↔ ∀ c ∈ table.columns, HasKeys d c := by
  rw [areRead_declarations]
  constructor
  · intro h c hc
    have hentity : entity (Name.entity table.name) (table.columns.map columnField) ∈
        declarations table (.ofTable table) := by
      simp [declarations_eq, front]
    have hmapper : mapper (Name.entity table.name) table.name (convertedColumns table.columns) ∈
        declarations table (.ofTable table) := by
      simp [declarations_eq, front]
    refine ⟨(h _ hentity).1 _ ?_, fun hconverted => (h _ hmapper).1 _ ?_⟩
    · exact List.mem_map_of_mem (List.mem_map_of_mem hc)
    · obtain ⟨conversion, hconversion⟩ := Option.isSome_iff_exists.mp hconverted
      exact List.mem_map_of_mem
        (mem_convertedColumns.mpr ⟨c, hc, conversion, hconversion, rfl⟩)
  · intro h
    have hnone : ∀ name ∈ ([] : List String), Script.isQuotable name.toList = true := by simp
    refine forall_mem_declarations ⟨isLegible_of_noNames rfl rfl, isLegible_of_noNames rfl rfl⟩
      ⟨?_, hnone⟩ ⟨isKey_of_mem_keyFields h .partitionKey, hnone⟩
      ⟨isKey_of_mem_clusteringKeys h, hnone⟩ (isLegible_mapper h _)
      (isLegible_of_noNames rfl rfl) (isLegible_of_noNames rfl rfl) (isLegible_of_noNames rfl rfl)
    rw [keys, names_columnFields]
    exact isKey_of_mem_fields h fun c hc => hc

end Reading

/-! ### Identifiers -/

theorem isWordStart_of_isIdentifierStart {c : Char} (h : Name.isIdentifierStart c = true) :
    Script.isWordStart c = true := by
  rw [Name.isIdentifierStart] at h
  rw [Script.isWordStart, h, Bool.true_or]

theorem isWordPart_of_isWordChar {c : Char} (h : Name.isWordChar c = true) :
    Script.isWordPart c = true := by
  rw [Name.isWordChar, Char.isAlphanum, Bool.or_eq_true, Bool.or_eq_true] at h
  rw [Script.isWordPart, Script.isWordStart]
  rcases h with (letter | digit) | under
  · rw [letter, Bool.true_or, Bool.true_or, Bool.true_or]
  · rw [digit, Bool.or_true]
  · rw [under, Bool.or_true, Bool.true_or, Bool.true_or]

/-- Identifiers are keys in all dialects. -/
theorem isKey_of_isIdentifier (d : Script.Dialect) {name : List Char}
    (h : Name.isIdentifier name = true) : d.isKey name = true := by
  cases name with
  | nil => contradiction
  | cons c r =>
    rw [Name.isIdentifier, Bool.and_eq_true, List.all_eq_true] at h
    obtain ⟨hc, hr⟩ := h
    have hword := isWordStart_of_isIdentifierStart hc
    have hnumeral : ¬Script.beginsNumeral c = true := by
      rw [Script.beginsNumeral, Bool.or_eq_true, decide_eq_true_eq]
      rintro (digit | rfl)
      · rw [Script.isWordStart_of_isDigit digit] at hword
        contradiction
      · exact absurd hword (by decide)
    have hascii : ∀ {x : Char}, Name.isWordChar x = true → x.toNat < 128 :=
      Name.isAlphabet_isWordChar.ascii
    have hstart : d.isStart c = true := by
      rwa [d.isStart_of_ascii (hascii (Name.isWordChar_of_isIdentifierStart hc))]
    have hpart : r.all d.isPart = true := by
      rw [List.all_eq_true]
      intro x hx
      rw [d.isPart_of_ascii (hascii (hr x hx))]
      exact isWordPart_of_isWordChar (hr x hx)
    rw [Script.Dialect.isKey, if_neg hnumeral, hstart, hpart, Bool.true_and]

theorem hasKeys_of_isIdentifier (d : Script.Dialect) {c : Column}
    (h : Name.isIdentifier c.name.toList = true) : HasKeys d c := by
  obtain ⟨begins, word⟩ := Name.isIdentifier_iff.mp h
  refine ⟨?_, fun _ => isKey_of_isIdentifier d h⟩
  rw [Name.camel, String.toList_ofList]
  exact isKey_of_isIdentifier d
    (Name.isIdentifier_iff.mpr ⟨begins.camelChars, word.camelChars Name.isAlphabet_isWordChar⟩)

/-- In the model of a table whose columns have identifiers for names, whatever their case, all names
are read. -/
theorem areRead_of_isIdentifier (d : Script.Dialect) {table : Table}
    (h : ∀ c ∈ table.columns, Name.isIdentifier c.name.toList = true) :
    AreRead d [] (chunks table (.ofTable table)) :=
  (areRead_iff d table).mpr fun c hc => hasKeys_of_isIdentifier d (h c hc)

/-! ### The law of keys -/

/-- A model is its chunks, and the names in them are read where they stand just if the field of each
column is a key that denotes itself and the name of each converted column is one, too. -/
theorem keys_are_read_iff (d : Script.Dialect) (table : Table) :
    textOf (chunks table (.ofTable table)) = (ofTable table).content.toList ∧
      (AreRead d [] (chunks table (.ofTable table)) ↔
        ∀ c ∈ table.columns, d.isKey (Name.camel c.name).toList = true ∧
          (c.type.conversion.isSome = true → d.isKey c.name.toList = true)) :=
  ⟨textOf_chunks table (.ofTable table), areRead_iff d table⟩

/-- In no dialect is a name with a quote in it read as it is. -/
theorem names_misread :
    ¬ ∃ d : Script.Dialect, ∀ table : Table, (∀ c ∈ table.columns, c.name ≠ "") →
      AreRead d [] (chunks table (.ofTable table)) := by
  rintro ⟨d, h⟩
  have hread := h (keyed "notes" "owner's id" .uuid) (by simp [keyed])
  have hkey := ((areRead_iff d _).mp hread _ List.mem_cons_self).1
  have hquote : '\'' ∈ (Name.camel "owner's id").toList := by
    rw [Name.camel, String.toList_ofList]
    decide
  exact d.not_excluded_of_isKey hkey '\'' hquote (by decide)

end Model

end WideColumn
