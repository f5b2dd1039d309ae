import Mathlib.Data.Set.List
import WideColumn.Model.Basic
import WideColumn.Proofs.Name.Plain
import WideColumn.Proofs.TargetType.Text

/-!
# What a model says about its table

The model of a table tells the name of the table, its columns with their target types and its key
model. No declaration alone does: the interface has the fields but not the name of the table, the
types of the keys have the fields of the keys, and the mapper has the name. What is written in front
of each of them says nothing, so a reader goes through the module from the front and only has to
know where each declaration ends. The one declaration that may be missing is told by its first
character.

Main definitions: `PlainColumn`, `PlainColumn.shown`, `Table.HasPlainNames`.
Main result: `Model.render_determines`.
-/

namespace WideColumn

open Text Declaration

/-! ## Columns -/

/-- A column whose name needs no quotes. -/
abbrev PlainColumn : Type := { c : Column // Cql.isPlain c.name.toList = true }

namespace PlainColumn

/-- What a field tells about its column. -/
def shown (c : PlainColumn) : String × TargetType := (c.1.name, c.1.type.target)

/-- The field of the column. -/
def field (c : PlainColumn) : Field := Model.columnField c.1

theorem not_mem_field (c : PlainColumn) {mark : Char} (h : Name.isWordChar mark = false) :
    mark ∉ c.field.name.toList := by
  have hword : Name.Within Name.isWordChar c.field.name.toList := by
    show Name.Within _ (Name.camel c.1.name).toList
    rw [Name.camel, String.toList_ofList]
    exact (Cql.within_isWordChar c.2).camelChars Name.isAlphabet_isWordChar
  exact hword.not_mem h

end PlainColumn

/-! ## Fields -/

theorem toList_fieldText (indent : String) (f : Field) (x : List Char) :
    (fieldText indent f).toList ++ x =
      indent.toList ++ (f.name.toList ++ ':' :: ' ' :: (f.target.chars ++ ';' :: x)) := by
  simp [fieldText, TargetType.text]

/-- A field ends where its semicolon stands, and it tells the column. -/
theorem field_apart (indent : String) : TellsApart (fun _ => True)
    (fun c : PlainColumn => (fieldText indent c.field).toList) PlainColumn.shown := by
  intro c d x y _ _ h
  dsimp only at h
  rw [toList_fieldText, toList_fieldText] at h
  obtain ⟨hname, hrest⟩ := marked_apart (c.not_mem_field (by decide)) (d.not_mem_field (by decide))
    (List.append_cancel_left h)
  obtain ⟨htarget, hrest⟩ :=
    TargetType.chars_apart (by simp) (by simp) (List.cons.inj hrest).2
  have hnames : c.1.name = d.1.name := Cql.camel_inj c.2 d.2 (String.toList_inj.mp hname)
  exact ⟨Prod.ext hnames htarget, (List.cons.inj hrest).2⟩

theorem toList_fieldLines (cs : List PlainColumn) (x : List Char) :
    (fieldLines (cs.map PlainColumn.field)).toList ++ x =
      cs.flatMap (fun c => (fieldText "  " c.field).toList ++ ['\n']) ++ x := by
  simp [fieldLines, String.toList_join, List.flatMap_map]

/-- Lines of fields end where a brace closes them. -/
theorem fieldLines_apart {cs ds : List PlainColumn} {x y : List Char}
    (h : (fieldLines (cs.map PlainColumn.field)).toList ++ '}' :: x =
      (fieldLines (ds.map PlainColumn.field)).toList ++ '}' :: y) :
    cs.map PlainColumn.shown = ds.map PlainColumn.shown ∧ x = y := by
  have hline : TellsApart (fun _ => True)
      (fun c : PlainColumn => (fieldText "  " c.field).toList ++ ['\n']) PlainColumn.shown := by
    intro c d x y _ _ h
    dsimp only at h
    rw [List.append_assoc, List.append_assoc] at h
    obtain ⟨hshown, hrest⟩ := field_apart "  " trivial trivial h
    exact ⟨hshown, (List.cons.inj hrest).2⟩
  have hbegins : ∀ (c : PlainColumn) (z : List Char),
      ¬ ∃ w, (fieldText "  " c.field).toList ++ ['\n'] ++ z = '}' :: w := by
    rintro c z ⟨w, e⟩
    rw [List.append_assoc, toList_fieldText] at e
    exact absurd (List.cons.inj e).1 (by decide)
  rw [toList_fieldLines, toList_fieldLines] at h
  obtain ⟨hshown, hrest⟩ := hline.flatMap (fun x => ∃ w, x = '}' :: w) (fun _ _ => trivial)
    (fun _ _ => trivial) hbegins ⟨x, rfl⟩ ⟨y, rfl⟩ h
  exact ⟨hshown, (List.cons.inj hrest).2⟩

/-! ## Choices of clustering columns -/

theorem toList_alternativeText (fields : List Field) (x : List Char) :
    (alternativeText fields).toList ++ x =
      (r"  | {" ++ "\n").toList ++
        (['\n'].intercalate (fields.map fun f => (fieldText "    " f).toList)
          ++ '\n' :: ' ' :: ' ' :: '}' :: x) := by
  simp [alternativeText, String.toList_intercalate, Function.comp_def]

theorem alternative_apart : TellsApart (fun _ => True)
    (fun cs : List PlainColumn => (alternativeText (cs.map PlainColumn.field)).toList)
    (List.map PlainColumn.shown) := by
  intro cs ds x y _ _ h
  dsimp only at h
  rw [toList_alternativeText, toList_alternativeText, List.map_map, List.map_map] at h
  -- Between two fields and at the end stands the same newline; what comes behind it is indented
  -- more between the fields.
  have hbegins : ∀ (c : PlainColumn) (z : List Char),
      ¬ ∃ w, (fieldText "    " c.field).toList ++ z = '\n' :: ' ' :: ' ' :: '}' :: w := by
    rintro c z ⟨w, e⟩
    rw [toList_fieldText] at e
    exact absurd (List.cons.inj e).1 (by decide)
  have hseparated : ∀ (c : PlainColumn) (z : List Char),
      ¬ ∃ w, ['\n'] ++ ((fieldText "    " c.field).toList ++ z) =
        '\n' :: ' ' :: ' ' :: '}' :: w := by
    rintro c z ⟨w, e⟩
    rw [toList_fieldText] at e
    have hthird := (List.cons.inj (List.cons.inj (List.cons.inj e).2).2).2
    exact absurd (List.cons.inj hthird).1 (by decide)
  obtain ⟨hshown, hrest⟩ := (field_apart "    ").intercalate ['\n']
    (fun x => ∃ w, x = '\n' :: ' ' :: ' ' :: '}' :: w) (fun _ _ => trivial) (fun _ _ => trivial)
    hbegins hseparated ⟨x, rfl⟩ ⟨y, rfl⟩ (List.append_cancel_left h)
  exact ⟨hshown, (List.cons.inj (List.cons.inj (List.cons.inj (List.cons.inj hrest).2).2).2).2⟩

/-! ## Declarations -/

theorem toList_entity (name : String) (fields : List Field) (x : List Char) :
    (entity name fields).text.toList ++ x =
      "export interface ".toList ++ (name.toList ++ ' ' :: '{' :: '\n' ::
        ((fieldLines fields).toList ++ '}' :: '\n' :: x)) := by
  have htext : (entity name fields).text =
    "export interface " ++ name ++ r" {" ++ "\n" ++ fieldLines fields ++ r"}" ++ "\n" := rfl
  simp [htext]

theorem entity_apart {name name' : String} (hname : ' ' ∉ name.toList)
    (hname' : ' ' ∉ name'.toList) {cs ds : List PlainColumn} {x y : List Char}
    (h : (entity name (cs.map PlainColumn.field)).text.toList ++ x =
      (entity name' (ds.map PlainColumn.field)).text.toList ++ y) :
    cs.map PlainColumn.shown = ds.map PlainColumn.shown ∧ x = y := by
  rw [toList_entity, toList_entity] at h
  obtain ⟨-, hrest⟩ := marked_apart hname hname' (List.append_cancel_left h)
  obtain ⟨hshown, hrest⟩ := fieldLines_apart (List.cons.inj (List.cons.inj hrest).2).2
  exact ⟨hshown, (List.cons.inj hrest).2⟩

theorem toList_partitionKeys (fields : List Field) (x : List Char) :
    (partitionKeys fields).text.toList ++ x =
      r"type PartitionKeys = {".toList ++
        ((if fields.isEmpty then [] else '\n' :: (fieldLines fields).toList) ++
          '}' :: ';' :: '\n' :: x) := by
  have htext : (partitionKeys fields).text =
    if fields.isEmpty then "type PartitionKeys = {};\n"
    else r"type PartitionKeys = {" ++ "\n" ++ fieldLines fields ++ r"};" ++ "\n" := rfl
  rw [htext]
  cases fields <;> simp

theorem partitionKeys_apart : TellsApart (fun _ => True)
    (fun cs : List PlainColumn => (partitionKeys (cs.map PlainColumn.field)).text.toList)
    (List.map PlainColumn.shown) := by
  intro cs ds x y _ _ h
  dsimp only at h
  rw [toList_partitionKeys, toList_partitionKeys] at h
  have hrest := List.append_cancel_left h
  cases cs with
  | nil =>
    cases ds with
    | nil => exact ⟨rfl, (List.cons.inj (List.cons.inj (List.cons.inj hrest).2).2).2⟩
    | cons d ds => exact absurd (List.cons.inj hrest).1 (by decide)
  | cons c cs =>
    cases ds with
    | nil => exact absurd (List.cons.inj hrest).1 (by decide)
    | cons d ds =>
      obtain ⟨hshown, hrest⟩ := fieldLines_apart (List.cons.inj hrest).2
      exact ⟨hshown, (List.cons.inj (List.cons.inj hrest).2).2⟩

theorem toList_clusteringKeys (alternatives : List (List Field)) (x : List Char) :
    (clusteringKeys alternatives).text.toList ++ x =
      "type ClusteringKeys =\n".toList ++
        (['\n'].intercalate (alternatives.map fun fields => (alternativeText fields).toList) ++
          ';' :: '\n' :: x) := by
  have htext : (clusteringKeys alternatives).text =
    "type ClusteringKeys =\n" ++ "\n".intercalate (alternatives.map alternativeText) ++ ";\n" := rfl
  simp [htext, String.toList_intercalate, Function.comp_def]

theorem clusteringKeys_apart : TellsApart (fun _ => True)
    (fun choices : List (List PlainColumn) =>
      (clusteringKeys (choices.map (·.map PlainColumn.field))).text.toList)
    (List.map (List.map PlainColumn.shown)) := by
  intro choices choices' x y _ _ h
  dsimp only at h
  rw [toList_clusteringKeys, toList_clusteringKeys, List.map_map, List.map_map] at h
  obtain ⟨hshown, hrest⟩ := alternative_apart.intercalate ['\n'] (fun x => ∃ w, x = ';' :: w)
    (fun _ _ => trivial) (fun _ _ => trivial)
    (by
      rintro cs z ⟨w, e⟩
      rw [toList_alternativeText] at e
      exact absurd (List.cons.inj e).1 (by decide))
    (by
      rintro cs z ⟨w, e⟩
      exact absurd (List.cons.inj e).1 (by decide))
    ⟨_, rfl⟩ ⟨_, rfl⟩ (List.append_cancel_left h)
  exact ⟨hshown, (List.cons.inj (List.cons.inj hrest).2).2⟩

/-- The mapper from the name of its table on. -/
def mapperRest (columns : List ConvertedColumn) : String :=
  "],\n" ++ "      mappings: new cassandra.mapping.UnderscoreCqlToCamelCaseMappings(),\n"
    ++ convertedLines columns ++ r"    }," ++ "\n" ++ r"  }," ++ "\n" ++ r"});" ++ "\n"

theorem toList_mapper (name table : String) (columns : List ConvertedColumn) (x : List Char) :
    (mapper name table columns).text.toList ++ x =
      (r"const mapper = new cassandra.mapping.Mapper(dbClient, {" ++ "\n" ++ r"  models: {"
          ++ "\n    ").toList ++
        (name.toList ++ ':' :: ((r" {" ++ "\n      tables: ['").toList ++
          (table.toList ++ '\'' :: ((mapperRest columns).toList ++ x)))) := by
  have htext : (mapper name table columns).text =
    r"const mapper = new cassandra.mapping.Mapper(dbClient, {" ++ "\n" ++ r"  models: {" ++ "\n"
      ++ "    " ++ name ++ r": {" ++ "\n" ++ "      tables: ['" ++ table ++ "'],\n"
      ++ "      mappings: new cassandra.mapping.UnderscoreCqlToCamelCaseMappings(),\n"
      ++ convertedLines columns ++ r"    }," ++ "\n" ++ r"  }," ++ "\n" ++ r"});" ++ "\n" := rfl
  rw [htext, mapperRest]
  simp only [String.toList_append, List.append_assoc]
  rfl

/-- No mapper begins like a declaration of the clustering keys. -/
theorem head?_mapper_ne (name table : String) (columns : List ConvertedColumn) (x : List Char) :
    ((mapper name table columns).text.toList ++ x).head? ≠ some 't' := by
  intro e
  rw [toList_mapper] at e
  exact absurd (Option.some.inj e) (by decide)

theorem mapper_apart {name name' table table' : String} (hname : ':' ∉ name.toList)
    (hname' : ':' ∉ name'.toList) (htable : '\'' ∉ table.toList) (htable' : '\'' ∉ table'.toList)
    {columns columns' : List ConvertedColumn} {x y : List Char}
    (h : (mapper name table columns).text.toList ++ x =
      (mapper name' table' columns').text.toList ++ y) : table = table' := by
  rw [toList_mapper, toList_mapper] at h
  obtain ⟨-, hrest⟩ := marked_apart hname hname' (List.append_cancel_left h)
  obtain ⟨hchars, -⟩ := marked_apart htable htable' (List.append_cancel_left hrest)
  exact String.toList_inj.mp hchars

/-! ## The module -/

namespace Model

theorem toList_moduleText (groups : List (List Declaration)) :
    (moduleText groups).toList =
      ['\n'].intercalate (groups.map fun group => group.flatMap (·.text.toList)) := by
  simp [moduleText, String.toList_intercalate, String.toList_join, List.flatMap_map,
    Function.comp_def]

/-- The declaration of the clustering keys, if the table has any. -/
def clusteringPart (choices : List (List Field)) : List Char :=
  if choices.isEmpty then [] else (clusteringKeys choices).text.toList ++ ['\n']

/-- What a model has behind its mapper. -/
def closing (name : String) (isClustered : Bool) : List Char :=
  '\n' :: ((accessor name isClustered).text.toList ++
    '\n' :: ((model name).text.toList ++ (exportDefault name).text.toList))

theorem toList_content (table : Table) (keys : KeyModel) :
    (render table keys).content.toList =
      (importDriver.text.toList ++ (importClient.text.toList ++ ['\n'])) ++
        ((entity (Name.entity table.name) (table.columns.map columnField)).text.toList ++ '\n' ::
          ((partitionKeys (keys.partitionKeys.map keyField)).text.toList ++ '\n' ::
            (clusteringPart (keys.clusteringPrefixes.map (·.map keyField)) ++
              ((mapper (Name.entity table.name) table.name
                (convertedColumns table.columns)).text.toList ++
                closing (Name.entity table.name) keys.isClustered)))) := by
  rw [render, toList_moduleText]
  cases hclustered : keys.isClustered with
  | true =>
    have hprefixes : keys.clusteringPrefixes ≠ [] := by
      simpa [KeyModel.isClustered] using hclustered
    simp [sections, clusteringPart, closing, hclustered, hprefixes]
  | false =>
    have hprefixes : keys.clusteringPrefixes = [] := by
      simpa [KeyModel.isClustered] using hclustered
    simp [sections, clusteringPart, closing, hclustered, hprefixes]

/-- A model begins with its imports. -/
theorem imports_prefix (table : Table) (keys : KeyModel) :
    importDriver.text.toList ++ importClient.text.toList <+:
      (render table keys).content.toList := by
  rw [toList_content]
  refine List.IsPrefix.trans ?_ (List.prefix_append _ _)
  rw [← List.append_assoc]
  exact List.prefix_append _ _

theorem clusteringPart_apart : TellsApart (fun x => x.head? ≠ some 't')
    (fun choices : List (List PlainColumn) =>
      clusteringPart (choices.map (·.map PlainColumn.field)))
    (List.map (List.map PlainColumn.shown)) := by
  have hcons : ∀ (cs : List PlainColumn) (rest : List (List PlainColumn)) (x : List Char),
      clusteringPart ((cs :: rest).map (·.map PlainColumn.field)) ++ x =
        (clusteringKeys ((cs :: rest).map (·.map PlainColumn.field))).text.toList ++ '\n' :: x := by
    intro cs rest x
    simp [clusteringPart]
  have hhead : ∀ (choices : List (List PlainColumn)) (x : List Char),
      ((clusteringKeys (choices.map (·.map PlainColumn.field))).text.toList ++ x).head? =
        some 't' := by
    intro choices x
    rw [toList_clusteringKeys]
    rfl
  intro choices choices' x y hx hy h
  dsimp only at h
  -- If one model has the declaration and the other does not, its first character is what follows in
  -- the other.
  cases choices with
  | nil =>
    cases choices' with
    | nil => exact ⟨rfl, h⟩
    | cons ds rest =>
      obtain rfl : x = _ := h
      rw [hcons] at hx
      exact absurd (hhead _ _) hx
  | cons cs rest =>
    cases choices' with
    | nil =>
      obtain rfl : _ = y := h
      rw [hcons] at hy
      exact absurd (hhead _ _) hy
    | cons ds rest' =>
      rw [hcons, hcons] at h
      obtain ⟨hshown, hrest⟩ := clusteringKeys_apart trivial trivial h
      exact ⟨hshown, (List.cons.inj hrest).2⟩

end Model

/-! ## The schema of a model -/

/-- The names of the table and of its columns need no quotes. -/
structure Table.HasPlainNames (table : Table) : Prop where
  name : Cql.isPlain table.name.toList = true
  columns : ∀ c ∈ table.columns, Cql.isPlain c.name.toList = true

namespace Table.HasPlainNames

variable {table : Table}

theorem keys (h : table.HasPlainNames) (kind : ColumnKind) :
    ∀ c ∈ table.keys kind, Cql.isPlain c.name.toList = true := by
  intro c hc
  exact h.columns c (List.mem_of_mem_filter (List.mem_mergeSort.mp hc))

/-- The columns of the table and of its key, with the fact that their names are plain. -/
theorem exists_plain (h : table.HasPlainNames) :
    ∃ columns partition clustering : List PlainColumn,
      columns.map Subtype.val = table.columns ∧
        partition.map Subtype.val = table.partitionKeys ∧
        clustering.map Subtype.val = table.clusteringKeys := by
  have hlift : ∀ cs : List Column, (∀ c ∈ cs, Cql.isPlain c.name.toList = true) →
      ∃ plain : List PlainColumn, plain.map Subtype.val = cs := by
    intro cs hcs
    lift cs to List PlainColumn using hcs
    exact ⟨cs, rfl⟩
  obtain ⟨columns, hcolumns⟩ := hlift table.columns h.columns
  obtain ⟨partition, hpartition⟩ := hlift table.partitionKeys (h.keys _)
  obtain ⟨clustering, hclustering⟩ := hlift table.clusteringKeys (h.keys _)
  exact ⟨columns, partition, clustering, hcolumns, hpartition, hclustering⟩

theorem not_mem_name (h : table.HasPlainNames) {mark : Char}
    (hmark : Name.isWordChar mark = false) : mark ∉ table.name.toList :=
  (Cql.within_isWordChar h.name).not_mem hmark

theorem not_mem_entity (h : table.HasPlainNames) {mark : Char}
    (hmark : Name.isWordChar mark = false) : mark ∉ (Name.entity table.name).toList :=
  ((Cql.within_isWordChar h.name).entity Name.isAlphabet_isWordChar).not_mem hmark

end Table.HasPlainNames

namespace KeyModel

theorem prefixesOf_map {α β : Type} (f : α → β) (xs : List α) :
    prefixesOf (xs.map f) = (prefixesOf xs).map (List.map f) := by
  simp [prefixesOf]

/-- The key field of a column, from what its field tells. -/
def fieldOf (shown : String × TargetType) : KeyField := ⟨Name.camel shown.1, shown.1, shown.2⟩

theorem ofTable_eq {table : Table} {partition clustering : List PlainColumn}
    (hpartition : partition.map Subtype.val = table.partitionKeys)
    (hclustering : clustering.map Subtype.val = table.clusteringKeys) :
    ofTable table =
      ⟨(partition.map PlainColumn.shown).map fieldOf,
        ((prefixesOf clustering).map (List.map PlainColumn.shown)).map (List.map fieldOf)⟩ := by
  rw [ofTable, ← hpartition, ← hclustering, List.map_map, List.map_map, prefixesOf_map,
    List.map_map, List.map_map]
  simp [Function.comp_def, fieldOf, PlainColumn.shown, KeyField.ofColumn]

end KeyModel

namespace Model

theorem toList_content_ofTable {table : Table} {columns partition clustering : List PlainColumn}
    (hcolumns : columns.map Subtype.val = table.columns)
    (hpartition : partition.map Subtype.val = table.partitionKeys)
    (hclustering : clustering.map Subtype.val = table.clusteringKeys) :
    (render table (KeyModel.ofTable table)).content.toList =
      (importDriver.text.toList ++ (importClient.text.toList ++ ['\n'])) ++
        ((entity (Name.entity table.name) (columns.map PlainColumn.field)).text.toList ++ '\n' ::
          ((partitionKeys (partition.map PlainColumn.field)).text.toList ++ '\n' ::
            (clusteringPart ((KeyModel.prefixesOf clustering).map (·.map PlainColumn.field)) ++
              ((mapper (Name.entity table.name) table.name
                (convertedColumns table.columns)).text.toList ++
                closing (Name.entity table.name) (KeyModel.ofTable table).isClustered)))) := by
  have hfields : table.columns.map columnField = columns.map PlainColumn.field := by
    rw [← hcolumns, List.map_map]
    rfl
  have hkeys : (KeyModel.ofTable table).partitionKeys.map keyField =
      partition.map PlainColumn.field := by
    rw [KeyModel.ofTable_eq hpartition hclustering, List.map_map, List.map_map]
    rfl
  have hchoices : (KeyModel.ofTable table).clusteringPrefixes.map (·.map keyField) =
      (KeyModel.prefixesOf clustering).map (·.map PlainColumn.field) := by
    rw [KeyModel.ofTable_eq hpartition hclustering, List.map_map, List.map_map]
    simp [Function.comp_def, KeyModel.fieldOf, keyField, PlainColumn.field, PlainColumn.shown,
      columnField]
  rw [toList_content, hfields, hkeys, hchoices]

/-- Tables whose models have the same text agree in everything that a model is about. -/
theorem render_determines {a b : Table} (ha : a.HasPlainNames) (hb : b.HasPlainNames)
    (h : (render a (KeyModel.ofTable a)).content = (render b (KeyModel.ofTable b)).content) :
    a.name = b.name ∧
      a.columns.map (fun c => (c.name, c.type.target)) =
        b.columns.map (fun c => (c.name, c.type.target)) ∧
      KeyModel.ofTable a = KeyModel.ofTable b := by
  obtain ⟨columns, partition, clustering, hcolumns, hpartition, hclustering⟩ := ha.exists_plain
  obtain ⟨columns', partition', clustering', hcolumns', hpartition', hclustering'⟩ :=
    hb.exists_plain
  have htexts := congrArg String.toList h
  rw [toList_content_ofTable hcolumns hpartition hclustering,
    toList_content_ofTable hcolumns' hpartition' hclustering'] at htexts
  -- Each declaration is read to its end, and what is left begins with the next.
  obtain ⟨hfields, htexts⟩ := entity_apart (ha.not_mem_entity (by decide))
    (hb.not_mem_entity (by decide)) (List.append_cancel_left htexts)
  obtain ⟨hpart, htexts⟩ := partitionKeys_apart trivial trivial (List.cons.inj htexts).2
  obtain ⟨hprefixes, htexts⟩ := clusteringPart_apart (head?_mapper_ne _ _ _ _)
    (head?_mapper_ne _ _ _ _) (List.cons.inj htexts).2
  have hname : a.name = b.name := mapper_apart (ha.not_mem_entity (by decide))
    (hb.not_mem_entity (by decide)) (ha.not_mem_name (by decide)) (hb.not_mem_name (by decide))
    htexts
  refine ⟨hname, ?_, ?_⟩
  · rw [← hcolumns, ← hcolumns', List.map_map, List.map_map]
    exact hfields
  · rw [KeyModel.ofTable_eq hpartition hclustering, KeyModel.ofTable_eq hpartition' hclustering',
      hpart, hprefixes]

/-- The column of the order in which the members of a room came. -/
def joinedAs (position : Int32) (rawType : String) (type : NativeType) : Column :=
  { tableName := "room_members", name := "joined_as", kind := .clustering, position, rawType
    type := .native type, order := .desc }

/-- The column of the room. -/
def roomId : Column :=
  { tableName := "room_members", name := "room_id", kind := .partitionKey, position := 0
    rawType := "uuid", type := .native .uuid, order := .none }

/-- The members of rooms, with a note on each. -/
def roomMembers (kind : ColumnKind) (position : Int32) (rawType : String) (type : NativeType) :
    Table where
  name := "room_members"
  columns :=
    [joinedAs position rawType type, roomId,
      { tableName := "room_members", name := "note", kind, position := -1
        rawType := "set<text>", type := .set (.native .text), order := .none }]

/-- Neither positions nor the roles outside the key show, nor which of the small numbers a column
holds. -/
theorem render_determines_roomMembers :
    (roomMembers .regular 0 "int" .int).HasPlainNames ∧
      (roomMembers .static 7 "tinyint" .tinyint).HasPlainNames ∧
      (render (roomMembers .regular 0 "int" .int)
          (KeyModel.ofTable (roomMembers .regular 0 "int" .int))).content =
        (render (roomMembers .static 7 "tinyint" .tinyint)
          (KeyModel.ofTable (roomMembers .static 7 "tinyint" .tinyint))).content ∧
      KeyModel.ofTable (roomMembers .regular 0 "int" .int) =
        KeyModel.ofTable (roomMembers .static 7 "tinyint" .tinyint) := by
  have hplain : ∀ kind position rawType type,
      (roomMembers kind position rawType type).HasPlainNames := by
    intro kind position rawType type
    refine ⟨show Cql.isPlain "room_members".toList = true by decide, ?_⟩
    simp only [roomMembers, joinedAs, roomId, List.forall_mem_cons, List.not_mem_nil,
      false_implies, implies_true, and_true]
    decide
  have hkeys : ∀ kind position rawType type, kind.isKey = false →
      (roomMembers kind position rawType type).partitionKeys = [roomId] ∧
        (roomMembers kind position rawType type).clusteringKeys =
          [joinedAs position rawType type] := by
    intro kind position rawType type hkind
    cases kind with
    | partitionKey | clustering => exact absurd hkind (by decide)
    | regular | static =>
      simp [Table.partitionKeys, Table.clusteringKeys, Table.keys, roomMembers, joinedAs, roomId]
  have hsame : (render (roomMembers .regular 0 "int" .int)
        (KeyModel.ofTable (roomMembers .regular 0 "int" .int))).content =
      (render (roomMembers .static 7 "tinyint" .tinyint)
        (KeyModel.ofTable (roomMembers .static 7 "tinyint" .tinyint))).content := by
    unfold KeyModel.ofTable
    rw [(hkeys .regular 0 "int" .int rfl).1, (hkeys .regular 0 "int" .int rfl).2,
      (hkeys .static 7 "tinyint" .tinyint rfl).1, (hkeys .static 7 "tinyint" .tinyint rfl).2]
    rfl
  obtain ⟨-, -, hmodels⟩ := render_determines (hplain .regular 0 "int" .int)
    (hplain .static 7 "tinyint" .tinyint) hsame
  exact ⟨hplain _ _ _ _, hplain _ _ _ _, hsame, hmodels⟩

end Model

end WideColumn
