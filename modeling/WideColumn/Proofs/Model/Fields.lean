import Mathlib.Data.List.Nodup
import WideColumn.Proofs.Model.Hygiene

/-!
# When the fields of a model collide

The fields of a model are named by the camel case of its columns. Two names have the same camel case
just when they are the same but for capitals written as an underscore and a small letter. Names
without capitals, as CQL has them without quotes, never collide, so a table of such columns declares
no field twice, in whatever part of its model.

Main definition: `Declaration.fieldLists`.
Main results: `Model.nodup_fieldLists`, `Model.camel_collides_iff`.
-/

namespace WideColumn

/-- The names that a declaration lists side by side, where each may stand only once: the properties
of an object type, and for the mapper the columns that it converts and the fields that it makes of
them. -/
def Declaration.fieldLists : Declaration → List (List String)
  | entity _ fields | partitionKeys fields => [fields.map (·.name)]
  | clusteringKeys alternatives => alternatives.map fun fields => fields.map (·.name)
  | mapper _ _ columns => [columns.map (·.column), columns.map (·.field)]
  | importDriver | importClient | accessor _ _ | model _ | exportDefault _ => []

namespace Model

/-! ## The names of fields -/

/-- The columns of a table have different fields. -/
def HasDistinctFields (columns : List Column) : Prop :=
  (columns.map fun c => Name.camel c.name).Nodup

namespace HasDistinctFields

variable {columns : List Column}

/-- Different columns have different fields if their names have no capitals. -/
theorem of_noCapital (h : ∀ c ∈ columns, ∀ x ∈ c.name.toList, x.isUpper = false)
    (distinct : (columns.map (·.name)).Nodup) : HasDistinctFields columns := by
  have hinj : ∀ a ∈ columns.map (·.name), ∀ b ∈ columns.map (·.name),
      Name.camel a = Name.camel b → a = b := by
    intro a ha b hb hfield
    obtain ⟨c, hc, rfl⟩ := List.mem_map.mp ha
    obtain ⟨d, hd, rfl⟩ := List.mem_map.mp hb
    exact String.toList_inj.mp (Name.camelChars_inj (h c hc) (h d hd) (String.ofList_inj.mp hfield))
  have hfields := List.Nodup.map_on hinj distinct
  rwa [List.map_map] at hfields

theorem of_sublist {chosen : List Column} (h : HasDistinctFields columns)
    (sub : chosen.Sublist columns) : HasDistinctFields chosen :=
  List.Nodup.sublist (sub.map _) h

/-- The keys are some of the columns, in another order. -/
theorem keys {table : Table} (h : HasDistinctFields table.columns) (kind : ColumnKind) :
    HasDistinctFields (table.keys kind) :=
  ((List.mergeSort_perm _ _).map _).nodup_iff.mpr (h.of_sublist List.filter_sublist)

end HasDistinctFields

/-! ## The fields of each declaration -/

theorem names_keyFields (columns : List Column) :
    ((columns.map KeyField.ofColumn).map keyField).map (·.name) =
      columns.map fun c => Name.camel c.name := by
  rw [List.map_map, List.map_map]
  rfl

theorem names_columnFields (columns : List Column) :
    (columns.map columnField).map (·.name) = columns.map fun c => Name.camel c.name := by
  rw [List.map_map]
  rfl

/-- The mapper converts some of the columns. -/
theorem exists_convertedColumns (columns : List Column) :
    ∃ chosen : List Column, chosen.Sublist columns ∧
      (convertedColumns columns).map (·.column) = chosen.map (·.name) ∧
      (convertedColumns columns).map (·.field) = chosen.map fun c => Name.camel c.name := by
  induction columns with
  | nil => exact ⟨[], .slnil, rfl, rfl⟩
  | cons c columns ih =>
    obtain ⟨chosen, hsub, hcolumns, hfields⟩ := ih
    unfold convertedColumns at hcolumns hfields ⊢
    cases hconversion : c.type.conversion with
    | none =>
      refine ⟨chosen, hsub.cons c, ?_⟩
      rw [List.filterMap_cons_none (by simp [hconversion])]
      exact ⟨hcolumns, hfields⟩
    | some conversion =>
      refine ⟨c :: chosen, hsub.cons_cons c, ?_⟩
      rw [List.filterMap_cons_some (by rw [hconversion]; rfl)]
      simp [hcolumns, hfields]

/-- A legal choice of clustering columns begins as their order does. -/
theorem sublist_of_mem_prefixesOf {α : Type} {xs p : List α} (h : p ∈ KeyModel.prefixesOf xs) :
    p.Sublist xs := by
  obtain ⟨i, -, rfl⟩ := List.mem_map.mp h
  exact List.take_sublist _ _

/-- No declaration of a model lists a name twice, if the fields of the columns are different. -/
theorem nodup_fieldLists {table : Table} (fields : HasDistinctFields table.columns)
    (distinct : (table.columns.map (·.name)).Nodup) :
    ∀ d ∈ declarations table (.ofTable table), ∀ names ∈ d.fieldLists, names.Nodup := by
  have hkeys : ∀ kind,
      (((table.keys kind).map KeyField.ofColumn).map keyField |>.map (·.name)).Nodup := by
    intro kind
    rw [names_keyFields]
    exact fields.keys kind
  obtain ⟨chosen, hsub, hcolumns, hconverted⟩ := exists_convertedColumns table.columns
  have hnone : ∀ names ∈ ([] : List (List String)), names.Nodup := by simp
  refine forall_mem_declarations ⟨hnone, hnone⟩ ?interface ?partition ?clustering ?binding hnone
    hnone hnone
  case interface =>
    intro names hnames
    rw [List.mem_singleton.mp hnames, names_columnFields]
    exact fields
  case partition =>
    intro names hnames
    rw [List.mem_singleton.mp hnames]
    exact hkeys .partitionKey
  case clustering =>
    intro names hnames
    obtain ⟨alternative, halternative, rfl⟩ := List.mem_map.mp hnames
    obtain ⟨choice, hchoice, rfl⟩ := List.mem_map.mp halternative
    have hsub := sublist_of_mem_prefixesOf hchoice
    exact List.Nodup.sublist ((hsub.map keyField).map _) (hkeys .clustering)
  case binding =>
    intro names hnames
    simp only [Declaration.fieldLists, List.mem_cons, List.not_mem_nil, or_false] at hnames
    rcases hnames with rfl | rfl
    · rw [hcolumns]
      exact List.Nodup.sublist (hsub.map _) distinct
    · rw [hconverted]
      exact fields.of_sublist hsub

/-! ## Collisions -/

/-- Two names have one field just when they are the same with each capital written as an underscore
and a small letter. So names without capitals have fields of their own, and the model of a table of
such columns lists no name twice; and a field is its own field, in which no underscore stands before
a small letter. -/
theorem camel_collides_iff :
    (∀ a b : String, Name.camel a = Name.camel b ↔
      Name.snakeChars a.toList = Name.snakeChars b.toList) ∧
    (∀ a b : String, (∀ c ∈ a.toList, c.isUpper = false) → (∀ c ∈ b.toList, c.isUpper = false) →
      Name.camel a = Name.camel b → a = b) ∧
    (∀ table : Table, (∀ c ∈ table.columns, ∀ x ∈ c.name.toList, x.isUpper = false) →
      (table.columns.map (·.name)).Nodup →
      ∀ d ∈ declarations table (.ofTable table), ∀ names ∈ d.fieldLists, names.Nodup) ∧
    (∀ a : String, Name.camel (Name.camel a) = Name.camel a) ∧
    (∀ (a : String) (before : List Char) (d : Char) (after : List Char),
      (Name.camel a).toList = before ++ '_' :: d :: after → d.isLower = false) := by
  refine ⟨fun a b => ?_, fun a b ha hb h => ?_, fun table h distinct => ?_, fun a => ?_,
    fun a before d after h => ?_⟩
  · unfold Name.camel
    rw [String.ofList_inj, Name.camelChars_eq_iff]
  · exact String.toList_inj.mp (Name.camelChars_inj ha hb (String.ofList_inj.mp h))
  · exact nodup_fieldLists (.of_noCapital h distinct) distinct
  · unfold Name.camel
    rw [String.toList_ofList, Name.camelChars_camelChars]
  · have hchain := Name.isChain_camelChars a.toList
    rw [Name.camel, String.toList_ofList] at h
    rw [h, List.isChain_append_cons_cons] at hchain
    exact hchain.2.1 rfl

/-- A table whose columns differ in underscores only, with keys and converters. -/
def underscored : Table where
  name := "rooms"
  columns :=
    [⟨"rooms", "room_id", .partitionKey, 0, "uuid", .native .uuid, .none⟩,
      ⟨"rooms", "_room_id", .clustering, 1, "uuid", .native .uuid, .none⟩,
      ⟨"rooms", "room__id", .clustering, 0, "int", .native .int, .none⟩,
      ⟨"rooms", "room_id_", .regular, -1, "bigint", .native .bigint, .none⟩]

/-- With a capital two such names do collide. -/
theorem camel_collides_underscored :
    ((∀ c ∈ underscored.columns, ∀ x ∈ c.name.toList, x.isUpper = false) ∧
      (underscored.columns.map (·.name)).Nodup ∧
      (underscored.columns.map fun c => Name.camel c.name) =
        ["roomId", "RoomId", "room_Id", "roomId_"] ∧
      ∀ d ∈ declarations underscored (.ofTable underscored), ∀ names ∈ d.fieldLists,
        names.Nodup) ∧
    (Name.snakeChars "room_Id".toList = Name.snakeChars "room__id".toList ∧
      Name.camel "room_Id" = Name.camel "room__id") := by
  obtain ⟨hiff, -, hfields, -⟩ := camel_collides_iff
  have hplain : ∀ c ∈ underscored.columns, ∀ x ∈ c.name.toList, x.isUpper = false := by
    have hall : underscored.columns.all (·.name.toList.all fun x => !x.isUpper) = true := by decide
    simpa using hall
  have hdistinct : (underscored.columns.map (·.name)).Nodup := by decide
  have hsame : Name.snakeChars "room_Id".toList = Name.snakeChars "room__id".toList := by decide
  exact ⟨⟨hplain, hdistinct, by decide, hfields underscored hplain hdistinct⟩,
    hsame, (hiff _ _).mpr hsame⟩

end Model

end WideColumn
