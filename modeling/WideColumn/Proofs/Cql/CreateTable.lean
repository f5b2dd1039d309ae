import Mathlib.Data.Set.List
import WideColumn.Cql.CreateTable
import WideColumn.Proofs.Cql.Identifier
import WideColumn.Proofs.Text.Apart

/-!
# What a CREATE TABLE statement says

The statement of a table tells the keyspace, the table, its columns with their types and its primary
key with the directions, whatever characters the names are made of: each part of the text ends where
the part itself says.

Only the primary key alone does not tell how many of its columns belong to the partition, for
`PRIMARY KEY (a, b)` may have one of them or none. The clause of the directions names the clustering
columns once more, and that settles it.

* `keyText_apart`: a primary key tells its columns in order.
* `createTable_determines`: the statement tells everything above.
-/

namespace WideColumn.Cql

open Text

/-! ## Identifiers in a text -/

theorem quoteIdentifier_apart :
    TellsApart EndsIdentifier (fun name : String => (quoteIdentifier name).toList) id := by
  intro a b x y hx hy h
  have hread := readIdentifier_quoteIdentifier a hx
  dsimp only at h
  rw [h, readIdentifier_quoteIdentifier b hy] at hread
  have hpair := Option.some.inj hread
  exact ⟨(Prod.mk.inj hpair).1.symm, (Prod.mk.inj hpair).2.symm⟩

/-- An identifier does not begin like the end of a list, a group or the line of the primary key. -/
theorem head?_quoteIdentifier_ne (name : String) (x : List Char) {mark : Char}
    (hquote : mark ≠ '"') (hplain : isPlainStart mark = false) :
    ((quoteIdentifier name).toList ++ x).head? ≠ some mark := by
  obtain ⟨c, r, hname, hc⟩ := quoteIdentifier_eq_cons name
  rw [hname, List.cons_append, List.head?_cons]
  intro e
  obtain rfl := Option.some.inj e
  rcases hc with hc | hc
  · exact hquote hc
  · rw [hplain] at hc
    exact absurd hc (by decide)

theorem endsIdentifier_comma (x : List Char) : EndsIdentifier (',' :: x) :=
  endsIdentifier_cons.mpr (by decide)

theorem endsIdentifier_close (x : List Char) : EndsIdentifier (')' :: x) :=
  endsIdentifier_cons.mpr (by decide)

theorem endsIdentifier_blank (x : List Char) : EndsIdentifier (' ' :: x) :=
  endsIdentifier_cons.mpr (by decide)

theorem endsIdentifier_point (x : List Char) : EndsIdentifier ('.' :: x) :=
  endsIdentifier_cons.mpr (by decide)

/-- The identifiers of names, each as its characters. -/
def identifiers (names : List String) : List (List Char) :=
  names.map fun name => (quoteIdentifier name).toList

theorem listed_identifiers_apart {names names' : List String} {x y : List Char}
    (h : listed (identifiers names) ++ ')' :: x = listed (identifiers names') ++ ')' :: y) :
    names = names' ∧ x = y := by
  have hlists := quoteIdentifier_apart.listed endsIdentifier_comma endsIdentifier_close (by decide)
    (fun a x => head?_quoteIdentifier_ne a x (by decide) (by decide)) h
  rwa [List.map_id, List.map_id] at hlists

theorem andListed_identifiers_apart {names names' : List String} {x y : List Char}
    (h : andListed (identifiers names) ++ ')' :: x = andListed (identifiers names') ++ ')' :: y) :
    names = names' ∧ x = y := by
  have hlists :=
    quoteIdentifier_apart.andListed endsIdentifier_comma endsIdentifier_close (by decide) h
  rwa [List.map_id, List.map_id] at hlists

/-! ## Lines of columns -/

theorem toList_columnLine (c : Column) (x : List Char) :
    (columnLine c).toList ++ x =
      ' ' :: ' ' :: ((quoteIdentifier c.name).toList ++
        ' ' :: ((c.rawType.toList ++ [',']) ++ '\n' :: x)) := by
  simp [columnLine, columnName]

/-- A column whose type is written on one line. -/
abbrev LineColumn : Type := { c : Column // '\n' ∉ c.rawType.toList }

theorem columnLine_apart : TellsApart (fun _ => True)
    (fun c : LineColumn => (columnLine c.1).toList) (fun c => (c.1.name, c.1.rawType)) := by
  intro c d x y _ _ h
  dsimp only at h
  rw [toList_columnLine, toList_columnLine] at h
  have hidentifiers := (List.cons.inj (List.cons.inj h).2).2
  obtain ⟨hname, hrest⟩ :=
    quoteIdentifier_apart (endsIdentifier_blank _) (endsIdentifier_blank _) hidentifiers
  obtain ⟨htype, hxy⟩ :=
    marked_apart (by simpa using c.2) (by simpa using d.2) (List.cons.inj hrest).2
  have hraw : c.1.rawType = d.1.rawType := String.toList_inj.mp (List.append_cancel_right htype)
  exact ⟨Prod.ext hname hraw, hxy⟩

/-- The lines of columns end where a line follows that is indented too but names no column. -/
theorem columnLines_apart {cs ds : List Column} (hcs : ∀ c ∈ cs, '\n' ∉ c.rawType.toList)
    (hds : ∀ d ∈ ds, '\n' ∉ d.rawType.toList) {x y : List Char}
    (h : (cs.map columnLine).flatMap String.toList ++ ' ' :: ' ' :: 'P' :: x =
      (ds.map columnLine).flatMap String.toList ++ ' ' :: ' ' :: 'P' :: y) :
    cs.map (fun c => (c.name, c.rawType)) = ds.map (fun d => (d.name, d.rawType)) ∧ x = y := by
  have hbegins : ∀ (c : LineColumn) (z : List Char),
      ¬ ∃ w, (columnLine c.1).toList ++ z = ' ' :: ' ' :: 'P' :: w := by
    rintro c z ⟨w, e⟩
    rw [toList_columnLine] at e
    have hhead := congrArg List.head? (List.cons.inj (List.cons.inj e).2).2
    exact head?_quoteIdentifier_ne c.1.name _ (by decide) (by decide) hhead
  lift cs to List LineColumn using hcs
  lift ds to List LineColumn using hds
  rw [List.map_map, List.flatMap_map, List.map_map, List.flatMap_map] at h
  obtain ⟨hlists, hxy⟩ := columnLine_apart.flatMap (fun x => ∃ w, x = ' ' :: ' ' :: 'P' :: w)
    (fun _ _ => trivial) (fun _ _ => trivial) hbegins ⟨x, rfl⟩ ⟨y, rfl⟩ h
  rw [List.map_map, List.map_map]
  exact ⟨hlists, (List.cons.inj (List.cons.inj (List.cons.inj hxy).2).2).2⟩

/-! ## The primary key -/

/-- The names in a primary key, between its parentheses. Several names of the partition are a group
of their own; a single one stands before the others, just as the first of the others would. -/
def keyText (partition clustering : List String) : List Char :=
  if partition.length ≤ 1 then listed (identifiers (partition ++ clustering))
  else '(' :: (listed (identifiers partition) ++ ')' :: andListed (identifiers clustering))

theorem toList_primaryKeyParts (table : Table) :
    (", ".intercalate (primaryKeyParts table)).toList =
      keyText (table.partitionKeys.map (·.name)) (table.clusteringKeys.map (·.name)) := by
  have hlisted : ∀ names : List String,
      [',', ' '].intercalate ((names.map quoteIdentifier).map String.toList) =
        listed (identifiers names) := by
    intro names
    rw [List.map_map]
    rfl
  have hcolumns : ∀ cs : List Column,
      cs.map columnName = (cs.map (·.name)).map quoteIdentifier := by
    intro cs
    rw [List.map_map]
    rfl
  rw [primaryKeyParts, hcolumns, hcolumns]
  generalize table.partitionKeys.map (·.name) = partition
  generalize table.clusteringKeys.map (·.name) = clustering
  match partition with
  | [] => rw [String.toList_intercalate]; exact hlisted clustering
  | [name] => rw [String.toList_intercalate]; exact hlisted (name :: clustering)
  | first :: second :: rest =>
    have hgroup : ("(" ++ ", ".intercalate ((first :: second :: rest).map quoteIdentifier) ++
        ")").toList = '(' :: (listed (identifiers (first :: second :: rest)) ++ [')']) := by
      rw [String.toList_append, String.toList_append, String.toList_intercalate]
      exact congrArg (fun names => '(' :: (names ++ [')'])) (hlisted _)
    calc (", ".intercalate (("(" ++ ", ".intercalate ((first :: second :: rest).map
            quoteIdentifier) ++ ")") :: clustering.map quoteIdentifier)).toList
      _ = listed (("(" ++ ", ".intercalate ((first :: second :: rest).map quoteIdentifier) ++
            ")").toList :: (clustering.map quoteIdentifier).map String.toList) := by
        rw [String.toList_intercalate, List.map_cons]
        rfl
      _ = keyText (first :: second :: rest) clustering := by
        rw [listed_cons, hgroup, List.map_map, keyText, if_neg (by simp)]
        simp [identifiers, Function.comp_def]

/-- A primary key tells its columns in order, though not always which of them are the partition. -/
theorem keyText_apart {p c q d : List String} {x y : List Char}
    (h : keyText p c ++ ')' :: x = keyText q d ++ ')' :: y) : p ++ c = q ++ d ∧ x = y := by
  have hungrouped : ∀ (names : List String) (z w : List Char),
      listed (identifiers names) ++ ')' :: z ≠ '(' :: w := by
    intro names z w e
    cases names with
    | nil => exact absurd (List.cons.inj e).1 (by decide)
    | cons name names =>
      rw [identifiers, List.map_cons, listed_cons, List.append_assoc] at e
      exact head?_quoteIdentifier_ne name _ (by decide) (by decide) (congrArg List.head? e)
  unfold keyText at h
  split at h
  · split at h
    · exact listed_identifiers_apart h
    · exact absurd h (hungrouped _ _ _)
  · split at h
    · exact absurd h.symm (hungrouped _ _ _)
    · rw [List.cons_append, List.cons_append, List.append_assoc, List.append_assoc] at h
      obtain ⟨rfl, hrest⟩ := listed_identifiers_apart (List.cons.inj h).2
      obtain ⟨rfl, hxy⟩ := andListed_identifiers_apart hrest
      exact ⟨rfl, hxy⟩

/-! ## Directions -/

/-- A column of the clustering key, as the clause of the directions shows it. -/
def direction (c : Column) : String × Bool := (c.name, decide (c.order = .desc))

theorem orderedColumn_apart :
    TellsApart (fun _ => True) (fun c : Column => (orderedColumn c).toList) direction := by
  have hwritten : ∀ (c : Column) (z : List Char), (orderedColumn c).toList ++ z =
      (quoteIdentifier c.name).toList ++
        ' ' :: ((if c.order = .desc then ['D', 'E', 'S', 'C'] else ['A', 'S', 'C']) ++ z) := by
    intro c z
    unfold orderedColumn columnName
    split <;> simp
  intro c d x y _ _ h
  dsimp only at h
  rw [hwritten, hwritten] at h
  obtain ⟨hname, hrest⟩ :=
    quoteIdentifier_apart (endsIdentifier_blank _) (endsIdentifier_blank _) h
  have hwords := (List.cons.inj hrest).2
  have hname : c.name = d.name := hname
  by_cases hc : c.order = .desc <;> by_cases hd : d.order = .desc
  · rw [if_pos hc, if_pos hd] at hwords
    exact ⟨by simp [direction, hname, hc, hd], List.append_cancel_left hwords⟩
  · rw [if_pos hc, if_neg hd] at hwords
    exact absurd (List.cons.inj hwords).1 (by decide)
  · rw [if_neg hc, if_pos hd] at hwords
    exact absurd (List.cons.inj hwords).1 (by decide)
  · rw [if_neg hc, if_neg hd] at hwords
    exact ⟨by simp [direction, hname, hc, hd], List.append_cancel_left hwords⟩

/-- What a statement ends with tells the clustering columns and their directions. -/
theorem orderClause_apart {t u : Table}
    (h : (orderClause t).toList ++ ";\n".toList = (orderClause u).toList ++ ";\n".toList) :
    t.clusteringKeys.map direction = u.clusteringKeys.map direction := by
  have hclause : ∀ {t : Table} {c : Column} {cs : List Column}, t.clusteringKeys = c :: cs →
      (orderClause t).toList ++ ";\n".toList = " WITH CLUSTERING ORDER BY (".toList ++
        (listed ((c :: cs).map fun c => (orderedColumn c).toList) ++ ')' :: ";\n".toList) := by
    intro t c cs ht
    unfold orderClause
    rw [ht]
    simp [listed, String.toList_intercalate, Function.comp_def]
  have hnone : ∀ {t : Table}, t.clusteringKeys = [] →
      (orderClause t).toList ++ ";\n".toList = ";\n".toList := by
    intro t ht
    unfold orderClause
    rw [ht]
    rfl
  cases ht : t.clusteringKeys with
  | nil =>
    cases hu : u.clusteringKeys with
    | nil => rfl
    | cons d ds =>
      rw [hnone ht, hclause hu] at h
      exact absurd (congrArg List.head? h) (by simp)
  | cons c cs =>
    cases hu : u.clusteringKeys with
    | nil =>
      rw [hclause ht, hnone hu] at h
      exact absurd (congrArg List.head? h) (by simp)
    | cons d ds =>
      rw [hclause ht, hclause hu] at h
      refine (orderedColumn_apart.listed (fun _ => trivial) (fun _ => trivial) (by decide) ?_
        (List.append_cancel_left h)).1
      intro c x
      unfold orderedColumn columnName
      rw [String.toList_append, List.append_assoc]
      exact head?_quoteIdentifier_ne _ _ (by decide) (by decide)

/-! ## The statement -/

theorem toList_createTable (keyspace : String) (table : Table) :
    (createTable keyspace table).toList =
      "CREATE TABLE ".toList ++ ((quoteIdentifier keyspace).toList ++
        '.' :: ((quoteIdentifier table.name).toList ++
          ' ' :: '(' :: '\n' :: ((table.columns.map columnLine).flatMap String.toList ++
            ' ' :: ' ' :: 'P' :: ("RIMARY KEY (".toList ++
              (keyText (table.partitionKeys.map (·.name)) (table.clusteringKeys.map (·.name)) ++
                ')' :: '\n' :: ')' :: ((orderClause table).toList ++ ";\n".toList)))))) := by
  unfold createTable
  simp only [String.toList_append, toList_primaryKeyParts, String.toList_join, List.append_assoc]
  rfl

/-- Tables that no reader of their statements could tell apart agree in everything that a statement
is about. -/
theorem createTable_determines {keyspace keyspace' : String} {table table' : Table}
    (hraw : ∀ c ∈ table.columns, '\n' ∉ c.rawType.toList)
    (hraw' : ∀ c ∈ table'.columns, '\n' ∉ c.rawType.toList)
    (h : createTable keyspace table = createTable keyspace' table') :
    keyspace = keyspace' ∧ table.name = table'.name ∧
      table.columns.map (fun c => (c.name, c.rawType)) =
        table'.columns.map (fun c => (c.name, c.rawType)) ∧
      table.partitionKeys.map (·.name) = table'.partitionKeys.map (·.name) ∧
      table.clusteringKeys.map (fun c => (c.name, decide (c.order = .desc))) =
        table'.clusteringKeys.map (fun c => (c.name, decide (c.order = .desc))) := by
  have htexts := congrArg String.toList h
  rw [toList_createTable, toList_createTable] at htexts
  obtain ⟨hkeyspace, htexts⟩ := quoteIdentifier_apart (endsIdentifier_point _)
    (endsIdentifier_point _) (List.append_cancel_left htexts)
  obtain ⟨hname, htexts⟩ := quoteIdentifier_apart (endsIdentifier_blank _)
    (endsIdentifier_blank _) (List.cons.inj htexts).2
  obtain ⟨hcolumns, htexts⟩ := columnLines_apart hraw hraw'
    (List.cons.inj (List.cons.inj (List.cons.inj htexts).2).2).2
  obtain ⟨hkeys, htexts⟩ := keyText_apart (List.append_cancel_left htexts)
  have hdirections : table.clusteringKeys.map direction = table'.clusteringKeys.map direction :=
    orderClause_apart (List.cons.inj (List.cons.inj htexts).2).2
  -- The directions name the clustering columns, and what the key has before those is the partition.
  have hclustering : table.clusteringKeys.map (·.name) = table'.clusteringKeys.map (·.name) := by
    have hnames := congrArg (List.map Prod.fst) hdirections
    rwa [List.map_map, List.map_map] at hnames
  rw [hclustering] at hkeys
  exact ⟨hkeyspace, hname, hcolumns, List.append_cancel_right hkeys, hdirections⟩

/-- A clustering column whose name has the end of a line in it. -/
def seqColumn (order : ClusteringOrder) : Column where
  tableName := "say \"hi\""
  name := "Seq\n"
  kind := .clustering
  position := 0
  rawType := "int"
  type := .native .int
  order

/-- A table of one clustering column and another column, which has no name. -/
def quotedEvents (kind : ColumnKind) (order : ClusteringOrder) : Table where
  name := "say \"hi\""
  columns :=
    [seqColumn order,
      { tableName := "say \"hi\"", name := "", kind, position := -1
        rawType := "map<text, int>", type := .unknown, order := .none }]

/-- The role of a column outside the key does not show, nor whether a direction was given. -/
theorem createTable_determines_quoted :
    (∀ c ∈ (quotedEvents .regular .none).columns, '\n' ∉ c.rawType.toList) ∧
      (∀ c ∈ (quotedEvents .static .asc).columns, '\n' ∉ c.rawType.toList) ∧
      createTable "Chat" (quotedEvents .regular .none) =
        createTable "Chat" (quotedEvents .static .asc) ∧
      (quotedEvents .regular .none).columns.map (fun c => (c.name, c.rawType)) =
        (quotedEvents .static .asc).columns.map (fun c => (c.name, c.rawType)) ∧
      (quotedEvents .regular .none).clusteringKeys.map
          (fun c => (c.name, decide (c.order = .desc))) =
        (quotedEvents .static .asc).clusteringKeys.map
          (fun c => (c.name, decide (c.order = .desc))) := by
  have hraw : ∀ kind order, ∀ c ∈ (quotedEvents kind order).columns, '\n' ∉ c.rawType.toList := by
    intro kind order c hc
    have htypes : c.rawType = "int" ∨ c.rawType = "map<text, int>" := by
      simp only [quotedEvents, List.mem_cons, List.not_mem_nil, or_false] at hc
      rcases hc with rfl | rfl
      · exact .inl rfl
      · exact .inr rfl
    rcases htypes with h | h <;> rw [h] <;> decide
  have hsame : createTable "Chat" (quotedEvents .regular .none) =
      createTable "Chat" (quotedEvents .static .asc) := by
    have hkeys : (quotedEvents .regular .none).partitionKeys = [] ∧
        (quotedEvents .static .asc).partitionKeys = [] := by
      constructor <;> simp [Table.partitionKeys, Table.keys, quotedEvents, seqColumn]
    have hclustering : ∀ kind order, kind ≠ .clustering →
        (quotedEvents kind order).clusteringKeys = [seqColumn order] := by
      intro kind order h
      simp [Table.clusteringKeys, Table.keys, quotedEvents, seqColumn, h]
    unfold createTable primaryKeyParts orderClause
    rw [hkeys.1, hkeys.2, hclustering _ _ (by decide), hclustering _ _ (by decide)]
    rfl
  obtain ⟨-, -, hcolumns, -, hdirections⟩ :=
    createTable_determines (hraw .regular .none) (hraw .static .asc) hsame
  exact ⟨hraw .regular .none, hraw .static .asc, hsame, hcolumns, hdirections⟩

end WideColumn.Cql
