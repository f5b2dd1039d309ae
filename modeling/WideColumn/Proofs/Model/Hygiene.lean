import WideColumn.Proofs.Conversion.Meaning
import WideColumn.Proofs.Model.Content
import WideColumn.Proofs.Name.Namesake

/-!
# The names of a model

A model binds names of its own at the top level of its module, and it uses global names in its
types and converters. The names that it binds are kept apart by their spelling: an entity is never
called like one of the names that all models bind, and no other name ends in `Mapper`. What an
entity may be called like is a global, for it is named for its table and for nothing else. The
tables of which that is so are the namesakes of the global.

Main definitions: `TargetType.globals`, `Declaration.globals`, `Model.declarations`.
Main result: `Model.declarations_hygienic`.

The names are those of the text: a declaration begins with the name that it binds
(`Declaration.text_of_binds`), and the globals of a type are its capitalized words
(`TargetType.capitalWords_chars`).
-/

namespace WideColumn

/-! ## Types -/

namespace TargetType

open Text

mutual

/-- The global names that a type uses, as they stand in its text. -/
def globals : TargetType → List String
  | buffer => ["Buffer"]
  | date => ["Date"]
  | array element => element.globals
  | record key value => "Record" :: (key.globals ++ value.globals)
  | tuple components => globalsOfAll components
  | string | number | boolean | unknown => []

/-- The global names that several types use. -/
def globalsOfAll : List TargetType → List String
  | [] => []
  | t :: r => t.globals ++ globalsOfAll r

end

mutual

theorem globals_subset (t : TargetType) : t.globals ⊆ ["Buffer", "Date", "Record"] := by
  cases t with
  | buffer | date => simp [globals]
  | array element => exact globals_subset element
  | record key value =>
    rw [globals, List.cons_subset, List.append_subset]
    exact ⟨by simp, globals_subset key, globals_subset value⟩
  | tuple components => exact globalsOfAll_subset components
  | string | number | boolean | unknown => exact List.nil_subset _

theorem globalsOfAll_subset (ts : List TargetType) :
    globalsOfAll ts ⊆ ["Buffer", "Date", "Record"] := by
  cases ts with
  | nil => exact List.nil_subset _
  | cons t r =>
    rw [globalsOfAll, List.append_subset]
    exact ⟨globals_subset t, globalsOfAll_subset r⟩

end

/-- The words of a text that begin with a capital, each up to what is no small letter. -/
def capitalWords : List Char → List (List Char)
  | [] => []
  | c :: r =>
    if c.isUpper then (c :: r.takeWhile Char.isLower) :: capitalWords r else capitalWords r

theorem capitalWords_cons_other {c : Char} (h : c.isUpper = false) (x : List Char) :
    capitalWords (c :: x) = capitalWords x := by
  simp [capitalWords, h]

/-- A text ends all words in front of it. -/
def EndsWord (x : List Char) : Prop := ∀ c ∈ x.head?, c.isLower = false

theorem endsWord_cons {c : Char} (h : c.isLower = false) (x : List Char) : EndsWord (c :: x) := by
  simpa [EndsWord] using h

theorem capitalWords_word {c : Char} {word x : List Char} (hc : c.isUpper = true)
    (hword : word.all Char.isLower = true) (hx : EndsWord x) :
    capitalWords (c :: word ++ x) = (c :: word) :: capitalWords x := by
  have htake : (word ++ x).takeWhile Char.isLower = word := by
    rw [List.takeWhile_append_of_pos (List.all_eq_true.mp hword)]
    cases x with
    | nil => simp
    | cons d r => rw [List.takeWhile_cons, hx d rfl]; simp
  have hrest : capitalWords (word ++ x) = capitalWords x := by
    clear htake
    induction word with
    | nil => rfl
    | cons d word ih =>
      rw [List.all_cons, Bool.and_eq_true] at hword
      rw [List.cons_append, capitalWords_cons_other (isUpper_eq_false_of_isLower hword.1),
        ih hword.2]
  rw [List.cons_append, capitalWords, if_pos hc, htake, hrest]

mutual

/-- The global names that a type uses are the capitalized words of its text. -/
theorem capitalWords_chars (t : TargetType) {x : List Char} (hx : EndsWord x) :
    capitalWords (t.chars ++ x) = t.globals.map String.toList ++ capitalWords x := by
  cases t with
  | array element =>
    rw [chars_array, capitalWords_chars element (endsWord_cons (by decide) _), globals,
      capitalWords_cons_other (by decide), capitalWords_cons_other (by decide)]
  | record key value =>
    have hword : ∀ rest, capitalWords ("Record<".toList ++ rest) =
        "Record".toList :: capitalWords ('<' :: rest) := by
      intro rest
      show capitalWords ('R' :: ['e', 'c', 'o', 'r', 'd'] ++ '<' :: rest) = _
      exact capitalWords_word (by decide) (by decide) (endsWord_cons (by decide) rest)
    rw [chars_record, hword, capitalWords_cons_other (by decide),
      capitalWords_chars key (endsWord_cons (by decide) _),
      capitalWords_cons_other (by decide), capitalWords_cons_other (by decide),
      capitalWords_chars value (endsWord_cons (by decide) _), capitalWords_cons_other (by decide),
      globals, List.map_cons, List.map_append, List.cons_append, List.append_assoc]
  | tuple components =>
    rw [chars_tuple, capitalWords_cons_other (by decide), capitalWords_commaSeparated components,
      globals]
  | buffer => exact capitalWords_word (c := 'B') (by decide) (by decide) hx
  | date => exact capitalWords_word (c := 'D') (by decide) (by decide) hx
  | string | number | boolean | unknown => rfl

theorem capitalWords_commaSeparated (ts : List TargetType) (x : List Char) :
    capitalWords (commaSeparated ts ++ ']' :: x) =
      (globalsOfAll ts).map String.toList ++ capitalWords x := by
  match ts with
  | [] => rfl
  | [t] =>
    have htext : commaSeparated [t] = t.chars := rfl
    rw [htext, capitalWords_chars t (endsWord_cons (by decide) _),
      capitalWords_cons_other (by decide), globalsOfAll, globalsOfAll, List.append_nil]
  | t :: u :: r =>
    have htext : commaSeparated (t :: u :: r) ++ ']' :: x =
        t.chars ++ ',' :: ' ' :: (commaSeparated (u :: r) ++ ']' :: x) := by
      rw [commaSeparated_cons, List.append_assoc, andListed_cons_append]
    have hglobals : globalsOfAll (t :: u :: r) = t.globals ++ globalsOfAll (u :: r) := rfl
    rw [htext, capitalWords_chars t (endsWord_cons (by decide) _),
      capitalWords_cons_other (by decide), capitalWords_cons_other (by decide),
      capitalWords_commaSeparated (u :: r), hglobals, List.map_append, List.append_assoc]

end

end TargetType

/-! ## Declarations -/

namespace Declaration

/-- The global names that a declaration uses in its types and converters. -/
def globals : Declaration → List String
  | entity _ fields | partitionKeys fields => fields.flatMap (·.target.globals)
  | clusteringKeys alternatives => alternatives.flatMap (·.flatMap (·.target.globals))
  | mapper _ _ columns => columns.flatMap (·.conversion.toModelExpr.free)
  | accessor _ _ => ["Promise"]
  | importDriver | importClient | model _ | exportDefault _ => []

theorem globals_fields (fields : List Field) :
    fields.flatMap (·.target.globals) ⊆ Name.globals := by
  intro name hname
  obtain ⟨field, -, hfield⟩ := List.mem_flatMap.mp hname
  have hsubset : ["Buffer", "Date", "Record"] ⊆ Name.globals := by decide
  exact hsubset (field.target.globals_subset hfield)

theorem globals_subset (d : Declaration) : d.globals ⊆ Name.globals := by
  cases d with
  | entity name fields | partitionKeys fields => exact globals_fields fields
  | clusteringKeys alternatives =>
    intro name hname
    obtain ⟨fields, -, hfields⟩ := List.mem_flatMap.mp hname
    exact globals_fields fields hfields
  | mapper entity table columns =>
    intro name hname
    obtain ⟨c, -, hfree⟩ := List.mem_flatMap.mp hname
    have hsubset : Conversion.globalNames ⊆ Name.globals := by decide
    exact hsubset (c.conversion.free_toModelExpr hfree)
  | accessor name isClustered =>
    have hsubset : ["Promise"] ⊆ Name.globals := by decide
    exact hsubset
  | importDriver | importClient | model _ | exportDefault _ => exact List.nil_subset _

theorem toList_accessor (name : String) (isClustered : Bool) :
    ∃ rest, (accessor name isClustered).text.toList =
      "interface ".toList ++ ((accessorName name).toList ++
        (" extends cassandra.mapping.ModelMapper<".toList ++ rest)) := by
  have htext : (accessor name isClustered).text =
    "interface " ++ accessorName name ++ " extends cassandra.mapping.ModelMapper<" ++ name
      ++ r"> {" ++ "\n" ++ "  get(\n"
      ++ "    doc: " ++ (if isClustered then "PartitionKeys & ClusteringKeys" else "PartitionKeys")
      ++ ",\n" ++ "    docInfo?: { fields?: string[] },\n"
      ++ "    executionOptions?: string | cassandra.mapping.MappingExecutionOptions,\n"
      ++ "  ): Promise<null | " ++ name ++ ">;\n" ++ r"}" ++ "\n" := rfl
  rw [htext]
  simp only [String.toList_append, List.append_assoc]
  exact ⟨_, rfl⟩

theorem toList_model (name : String) :
    ∃ rest, (model name).text.toList =
      "const ".toList ++ (name.toList ++ (" = mapper.forModel('".toList ++ rest)) := by
  have htext : (model name).text =
    "const " ++ name ++ " = mapper.forModel('" ++ name ++ "') as " ++ accessorName name ++ ";\n" :=
      rfl
  rw [htext]
  simp only [String.toList_append, List.append_assoc]
  exact ⟨_, rfl⟩

/-- What stands in front of a name that a declaration binds. -/
def keywords : List String :=
  ["import ", r"import { ", "export interface ", "interface ", "type ", "const "]

/-- The text of a declaration begins with the name that it binds, behind a keyword and in front of a
blank. -/
theorem text_of_binds {d : Declaration} {name : String} (h : d.binds = some name) :
    ∃ keyword ∈ keywords, ∃ rest,
      d.text.toList = keyword.toList ++ (name.toList ++ rest) ∧ rest.head? = some ' ' := by
  cases d with
  | importDriver =>
    obtain rfl := Option.some.inj h
    exact ⟨"import ", by decide, " from 'cassandra-driver';\n".toList, rfl, rfl⟩
  | importClient =>
    obtain rfl := Option.some.inj h
    exact ⟨r"import { ", by decide, (r" } from './db-client';" ++ "\n").toList, rfl, rfl⟩
  | entity name fields =>
    obtain rfl := Option.some.inj h
    have htext := toList_entity name fields []
    rw [List.append_nil] at htext
    exact ⟨"export interface ", by decide, _, htext, rfl⟩
  | partitionKeys fields =>
    obtain rfl := Option.some.inj h
    have htext := toList_partitionKeys fields []
    rw [List.append_nil] at htext
    exact ⟨"type ", by decide, r" = {".toList ++ _, htext, rfl⟩
  | clusteringKeys alternatives =>
    obtain rfl := Option.some.inj h
    have htext := toList_clusteringKeys alternatives []
    rw [List.append_nil] at htext
    exact ⟨"type ", by decide, " =\n".toList ++ _, htext, rfl⟩
  | mapper entity table columns =>
    obtain rfl := Option.some.inj h
    have htext := toList_mapper entity table columns []
    rw [List.append_nil] at htext
    refine ⟨"const ", by decide, _, htext, rfl⟩
  | accessor name isClustered =>
    obtain rfl := Option.some.inj h
    obtain ⟨rest, htext⟩ := toList_accessor name isClustered
    exact ⟨"interface ", by decide, _, htext, rfl⟩
  | model name =>
    obtain rfl := Option.some.inj h
    obtain ⟨rest, htext⟩ := toList_model name
    exact ⟨"const ", by decide, _, htext, rfl⟩
  | exportDefault name => contradiction

/-- Two declarations bind the same name only if they are the interface and the constant of one
entity, in this order. -/
def BindApart (d e : Declaration) : Prop :=
  ∀ name, d.binds = some name → e.binds = some name →
    (∃ fields, d = .entity name fields) ∧ e = .model name

theorem accessorName_ne (entity : String) :
    ∀ name ∈ Name.fixed ++ Name.globals, accessorName entity ≠ name := by
  have hends : ∀ name ∈ Name.fixed ++ Name.globals,
      "Mapper".toList.isSuffixOf name.toList = false := by decide
  rintro name hname rfl
  have hsuffix : "Mapper".toList <:+ (accessorName entity).toList := by
    rw [accessorName, String.toList_append]
    exact List.suffix_append _ _
  exact absurd (List.isSuffixOf_iff_suffix.mpr hsuffix) (by rw [hends _ hname]; decide)

theorem accessorName_ne_self (entity : String) : accessorName entity ≠ entity := by
  intro h
  have hlength := congrArg (fun name => name.toList.length) h
  simp [accessorName] at hlength

end Declaration

/-! ## Models -/

namespace Model

open Declaration

/-- The declarations of a model, from the first to the last. -/
def declarations (table : Table) (keys : KeyModel) : List Declaration :=
  (sections table keys).flatten

/-- The declarations in front of the constant that has the entity's name. -/
def front (table : Table) (keys : KeyModel) : List Declaration :=
  [.importDriver, .importClient,
      .entity (Name.entity table.name) (table.columns.map columnField),
      .partitionKeys (keys.partitionKeys.map keyField)]
    ++ (if keys.isClustered then
        [.clusteringKeys (keys.clusteringPrefixes.map (·.map keyField))]
      else [])
    ++ [.mapper (Name.entity table.name) table.name (convertedColumns table.columns),
      .accessor (Name.entity table.name) keys.isClustered]

theorem declarations_eq (table : Table) (keys : KeyModel) :
    declarations table keys =
      front table keys ++
        [.model (Name.entity table.name), .exportDefault (Name.entity table.name)] := by
  unfold declarations sections front
  cases keys.isClustered <;> rfl

/-- What is to be shown of all declarations of a model is to be shown of each kind. -/
theorem forall_mem_declarations {table : Table} {keys : KeyModel} {P : Declaration → Prop}
    (imports : P .importDriver ∧ P .importClient)
    (interface : P (.entity (Name.entity table.name) (table.columns.map columnField)))
    (partition : P (.partitionKeys (keys.partitionKeys.map keyField)))
    (clustering : P (.clusteringKeys (keys.clusteringPrefixes.map (·.map keyField))))
    (binding :
      P (.mapper (Name.entity table.name) table.name (convertedColumns table.columns)))
    (access : P (.accessor (Name.entity table.name) keys.isClustered))
    (constant : P (.model (Name.entity table.name)))
    (exported : P (.exportDefault (Name.entity table.name))) :
    ∀ d ∈ declarations table keys, P d := by
  intro d hd
  rw [declarations_eq, front] at hd
  simp only [List.mem_append, List.mem_cons, List.not_mem_nil, or_false] at hd
  rcases hd with (((rfl | rfl | rfl | rfl) | hclustering) | (rfl | rfl)) | (rfl | rfl)
  · exact imports.1
  · exact imports.2
  · exact interface
  · exact partition
  · split at hclustering
    · obtain rfl := List.mem_singleton.mp hclustering
      exact clustering
    · contradiction
  · exact binding
  · exact access
  · exact constant
  · exact exported

/-- What a declaration in front of the constant binds is the entity, the accessor or a name that all
models bind. -/
theorem binds_of_mem_front {table : Table} {keys : KeyModel} {d : Declaration}
    (hd : d ∈ front table keys) {name : String} (h : d.binds = some name) :
    name ∈ Name.fixed ∨ name = accessorName (Name.entity table.name) ∨
      ∃ fields, d = .entity name fields ∧ name = Name.entity table.name := by
  have hfixed : ∀ {fixed : String}, fixed ∈ Name.fixed → some fixed = some name →
      name ∈ Name.fixed := by
    intro fixed hmem hname
    rwa [← Option.some.inj hname]
  simp only [front, List.mem_append, List.mem_cons, List.not_mem_nil, or_false] at hd
  rcases hd with ((rfl | rfl | rfl | rfl) | hclustering) | (rfl | rfl)
  · exact .inl (hfixed (by decide) h)
  · exact .inl (hfixed (by decide) h)
  · obtain rfl := Option.some.inj h
    exact .inr (.inr ⟨_, rfl, rfl⟩)
  · exact .inl (hfixed (by decide) h)
  · split at hclustering
    · obtain rfl := List.mem_singleton.mp hclustering
      exact .inl (hfixed (by decide) h)
    · contradiction
  · exact .inl (hfixed (by decide) h)
  · exact .inr (.inl (Option.some.inj h).symm)

section Plain

variable {table : Table} (hplain : Cql.isPlain table.name.toList = true) (keys : KeyModel)

include hplain

theorem nodup_front : ((front table keys).filterMap binds).Nodup := by
  have hentity : ∀ name ∈ Name.fixed, Name.entity table.name ≠ name :=
    fun name hname => Name.entity_ne hplain hname
  have hentity' : ∀ name ∈ Name.fixed, name ≠ Name.entity table.name :=
    fun name hname => (hentity name hname).symm
  have haccessor : ∀ name ∈ Name.fixed, name ≠ accessorName (Name.entity table.name) :=
    fun name hname => (accessorName_ne _ name (List.mem_append_left _ hname)).symm
  have hself := (accessorName_ne_self (Name.entity table.name)).symm
  simp only [Name.fixed, List.forall_mem_cons] at hentity hentity' haccessor
  unfold front
  cases keys.isClustered <;> simp [binds, hentity, hentity', haccessor, hself]

/-- The declarations of a model keep the names that they bind apart. -/
theorem pairwise_bindApart : (declarations table keys).Pairwise BindApart := by
  have hfront : (front table keys).Pairwise BindApart := by
    refine (List.pairwise_filterMap.mp (nodup_front hplain keys)).imp ?_
    intro d e hne name hd he
    exact absurd rfl (hne name hd name he)
  rw [declarations_eq, List.pairwise_append]
  refine ⟨hfront, by simp [BindApart, binds], ?_⟩
  intro d hd e he name hname hconstant
  simp only [List.mem_cons, List.not_mem_nil, or_false] at he
  rcases he with rfl | rfl
  · obtain rfl := Option.some.inj hconstant
    rcases binds_of_mem_front hd hname with hfixed | haccessor | ⟨fields, hentity, -⟩
    · exact absurd rfl (Name.entity_ne hplain hfixed)
    · exact absurd haccessor.symm (accessorName_ne_self _)
    · exact ⟨⟨fields, hentity⟩, rfl⟩
  · contradiction

/-- A global name is bound just if the table is a namesake of it. -/
theorem mem_binds_iff {name : String} (hname : name ∈ Name.globals) :
    name ∈ (declarations table keys).filterMap binds ↔ table.name ∈ Name.namesakes name := by
  rw [← Name.entity_eq_iff hplain hname, declarations_eq, List.filterMap_append, List.mem_append]
  constructor
  · rintro (hfront | hconstant)
    · obtain ⟨d, hd, hbinds⟩ := List.mem_filterMap.mp hfront
      rcases binds_of_mem_front hd hbinds with hfixed | haccessor | ⟨fields, -, hentity⟩
      · have hapart : ∀ name ∈ Name.globals, name ∉ Name.fixed := by decide
        exact absurd hfixed (hapart name hname)
      · exact absurd haccessor.symm (accessorName_ne _ name (List.mem_append_right _ hname))
      · exact hentity.symm
    · obtain rfl := List.mem_singleton.mp hconstant
      rfl
  · rintro rfl
    exact .inr List.mem_cons_self

/-- The names that a model binds are apart, but for the interface and the constant of its entity. A
global name that it uses is bound by it just if the table is a namesake of the global, and then by
the entity. -/
theorem declarations_hygienic :
    (declarations table keys).Pairwise BindApart ∧
      ∀ name ∈ (declarations table keys).flatMap Declaration.globals,
        (name ∈ (declarations table keys).filterMap binds ↔ table.name ∈ Name.namesakes name) ∧
          (table.name ∈ Name.namesakes name → name = Name.entity table.name) := by
  refine ⟨pairwise_bindApart hplain keys, fun name hname => ?_⟩
  obtain ⟨d, -, hd⟩ := List.mem_flatMap.mp hname
  have hglobal : name ∈ Name.globals := d.globals_subset hd
  refine ⟨mem_binds_iff hplain keys hglobal, fun hnamesake => ?_⟩
  exact ((Name.entity_eq_iff hplain hglobal).mpr hnamesake).symm

end Plain

/-- A table of one key column. -/
def keyed (name column : String) (type : NativeType) : Table where
  name
  columns :=
    [{ tableName := name, name := column, kind := .partitionKey, position := 0
       rawType := type.name, type := .native type, order := .none }]

theorem declarations_hygienic_meetings :
    Cql.isPlain "meetings".toList = true ∧
      (declarations (keyed "meetings" "held_at" .timestamp)
        (KeyModel.ofTable (keyed "meetings" "held_at" .timestamp))).Pairwise BindApart ∧
      "Date" ∈ (declarations (keyed "meetings" "held_at" .timestamp)
        (KeyModel.ofTable (keyed "meetings" "held_at" .timestamp))).flatMap Declaration.globals ∧
      "Date" ∉ (declarations (keyed "meetings" "held_at" .timestamp)
        (KeyModel.ofTable (keyed "meetings" "held_at" .timestamp))).filterMap binds := by
  have hplain : Cql.isPlain "meetings".toList = true := by decide
  obtain ⟨hapart, hglobals⟩ := declarations_hygienic
    (show Cql.isPlain (keyed "meetings" "held_at" .timestamp).name.toList = true from hplain)
    (KeyModel.ofTable (keyed "meetings" "held_at" .timestamp))
  have hused : "Date" ∈ (declarations (keyed "meetings" "held_at" .timestamp)
      (KeyModel.ofTable (keyed "meetings" "held_at" .timestamp))).flatMap Declaration.globals := by
    rw [declarations_eq]
    simp [front, Declaration.globals, keyed, columnField, ColumnType.target, NativeType.target,
      TargetType.globals]
  have hnamesake : "meetings" ∉ Name.namesakes "Date" := by decide
  exact ⟨hplain, hapart, hused, fun hbound => hnamesake ((hglobals "Date" hused).1.mp hbound)⟩

/-- The model of a table called `promises` binds `Promise` and uses the global of that name. -/
theorem declarations_promises :
    ¬ ∀ table : Table, Cql.isPlain table.name.toList = true →
      (declarations table (KeyModel.ofTable table)).Pairwise BindApart ∧
        ∀ name ∈ (declarations table (KeyModel.ofTable table)).flatMap Declaration.globals,
          name ∉ (declarations table (KeyModel.ofTable table)).filterMap binds := by
  intro h
  have hplain : Cql.isPlain (keyed "promises" "id" .int).name.toList = true := by
    show Cql.isPlain "promises".toList = true
    decide
  have hused : "Promise" ∈ (declarations (keyed "promises" "id" .int)
      (KeyModel.ofTable (keyed "promises" "id" .int))).flatMap Declaration.globals := by
    rw [declarations_eq]
    simp [front, Declaration.globals]
  have hnamesake : "promises" ∈ Name.namesakes "Promise" := by decide
  have hbound := (mem_binds_iff hplain (KeyModel.ofTable (keyed "promises" "id" .int))
    (show "Promise" ∈ Name.globals by decide)).mpr hnamesake
  exact (h _ hplain).2 "Promise" hused hbound

end Model

end WideColumn
