import WideColumn.Proofs.Name.ModelFile
import WideColumn.Proofs.Sink.Files

/-!
# What a run writes

The invariant of a run over the file sink: the report's written paths are those of some of the
tables, each of them leads to the model of its table, and beside these files the tree only has new
directories on the way. It holds of any tables that are named by words, whatever the user replies
and whatever the tree refuses.
-/

namespace WideColumn

/-- The path at which the model of a table is written. -/
def Table.pathIn (table : Table) (dir : String) : String := Path.join dir table.file.path

namespace FileTree

variable {tree tree' : FileTree} {dir name content : String} {d : Location}

/-- The file of the name is in the directory, which is at location `d`, and has the text. -/
structure Holds (tree : FileTree) (dir name content : String) (d : Location) : Prop where
  admits : tree.Admits dir name d
  content : tree.node? (name :: d) = some (.file content)

/-- A file that a growing tree takes and that is there afterwards is in the directory. -/
theorem Admits.holds (h : tree.Admits dir name d) (grows : Grows tree tree')
    (there : tree'.node? (name :: d) = some (.file content)) :
    tree'.Holds dir name content d where
  admits :=
    { route := h.route
      follow := grows.follow h.follow
      directory := grows.directory h.directory
      short := h.short
      free := by simp [there] }
  content := there

/-- A tree that only gains directories keeps its files. -/
theorem Holds.paves {other : String} (h : tree.Holds dir name content d)
    (p : Paves other tree tree') : tree'.Holds dir name content d := by
  refine h.admits.holds p.grows ?_
  rcases p.frame (name :: d) with same | ⟨none, -⟩
  · rw [same, h.content]
  · rw [h.content] at none
    cases none

theorem Admits.grows (h : tree.Admits dir name d) (content : String) :
    Grows tree (tree.set (name :: d) (.file content)) :=
  .set_file (by simp) h.free content

/-- A file that is written is there. -/
theorem Admits.write (h : tree.Admits dir name d) (content : String) :
    (tree.set (name :: d) (.file content)).Holds dir name content d := by
  refine h.holds (h.grows content) ?_
  rw [node?_set tree _ _ (by simp), if_pos rfl]

/-- Writing a file keeps the files of other names. -/
theorem Holds.write {other : String} {d' : Location} (h : tree.Holds dir name content d)
    (admits : tree.Admits dir other d') (hne : name ≠ other) (text : String) :
    (tree.set (other :: d') (.file text)).Holds dir name content d := by
  refine h.admits.holds (admits.grows text) ?_
  rw [node?_set tree _ _ (by simp), if_neg (fun e => hne (List.cons.inj e).1), h.content]

end FileTree

open FileTree

/-- Some of the tables that are done are the writers: their models are in the files that the report
calls written, and nothing else changed but for new directories on the way. -/
structure Written (dir : String) (before : FileTree) (done writers : List Table)
    (report : Report) (tree : FileTree) : Prop where
  sublist : writers.Sublist done
  distinct : (writers.map (·.file.path)).Nodup
  written : report.written = writers.map (·.pathIn dir)
  skipped : ∀ path ∈ report.skipped, ∃ t ∈ done,
    path = t.pathIn dir ∧ t.file.path ∉ writers.map (·.file.path)
  failed : ∀ name cause, (name, EmitError.sink cause) ∈ report.failed → ∃ t ∈ done,
    t.name = name ∧ t.file.path ∉ writers.map (·.file.path)
  grows : Grows before tree
  holds : ∀ t ∈ writers, ∃ d, tree.Holds dir t.file.path t.file.content d
  frame : ∀ l, (∀ t ∈ writers, ∀ d, tree.follow dir = .ok d → l ≠ t.file.path :: d) →
    tree.node? l = before.node? l ∨
      before.node? l = none ∧ tree.node? l = some .directory ∧ tree.OnTheWay dir l

namespace Written

variable {dir : String} {before tree tree' : FileTree} {done writers : List Table}
  {report : Report} {table : Table}

theorem nil (dir : String) (tree : FileTree) : Written dir tree [] [] {} tree where
  sublist := .slnil
  distinct := .nil
  written := rfl
  skipped := by simp
  failed := by simp
  grows := .refl tree
  holds := by simp
  frame _ _ := .inl rfl

/-- Making directories on the way keeps all that is written. -/
theorem paves (h : Written dir before done writers report tree) (p : Paves dir tree tree') :
    Written dir before done writers report tree' :=
  { h with
    grows := h.grows.trans p.grows
    holds := fun t ht =>
      have ⟨d, holds⟩ := h.holds t ht
      ⟨d, holds.paves p⟩
    frame := fun l hl => by
      have elsewhere : ∀ t ∈ writers, ∀ d, tree.follow dir = .ok d → l ≠ t.file.path :: d :=
        fun t ht d hd => hl t ht d (p.grows.follow hd)
      -- A location may be made by the run so far or on the way now, but not by both.
      rcases p.frame l with same' | ⟨none', made', way'⟩
      · rcases h.frame l elsewhere with same | ⟨none, made, way⟩
        · exact .inl (same'.trans same)
        · exact .inr ⟨none, same'.trans made, way.grows p.grows⟩
      · rcases h.frame l elsewhere with same | ⟨none, made, way⟩
        · exact .inr ⟨same ▸ none', made', way'⟩
        · rw [made] at none'
          cases none' }

theorem fresh (h : Written dir before done writers report tree)
    (free : table.rival? done = none) : table.file.path ∉ writers.map (·.file.path) := by
  intro hm
  obtain ⟨t, ht, he⟩ := List.mem_map.1 hm
  exact Table.rival?_eq_none.1 free t (h.sublist.subset ht) he

theorem skipped_later (h : Written dir before done writers report tree) (table : Table) :
    ∀ path ∈ report.skipped, ∃ t ∈ done ++ [table],
      path = t.pathIn dir ∧ t.file.path ∉ writers.map (·.file.path) := by
  intro path hp
  obtain ⟨t, ht, rest⟩ := h.skipped path hp
  exact ⟨t, List.mem_append_left _ ht, rest⟩

theorem failed_later (h : Written dir before done writers report tree) (table : Table) :
    ∀ name cause, (name, EmitError.sink cause) ∈ report.failed → ∃ t ∈ done ++ [table],
      t.name = name ∧ t.file.path ∉ writers.map (·.file.path) := by
  intro name cause hf
  obtain ⟨t, ht, rest⟩ := h.failed name cause hf
  exact ⟨t, List.mem_append_left _ ht, rest⟩

/-- A table whose path is claimed changes no file. -/
theorem duplicate (h : Written dir before done writers report tree) (first : String) :
    Written dir before (done ++ [table]) writers
      (report.fail table.name (.duplicatePath table.file.path first)) tree :=
  { h with
    sublist := h.sublist.trans (List.sublist_append_left _ _)
    skipped := h.skipped_later table
    failed := fun name cause hf =>
      h.failed_later table name cause (by simpa [Report.fail] using hf) }

theorem skip (h : Written dir before done writers report tree)
    (free : table.rival? done = none) :
    Written dir before (done ++ [table]) writers (report.add (.skipped (table.pathIn dir)))
      tree :=
  { h with
    sublist := h.sublist.trans (List.sublist_append_left _ _)
    skipped := fun path hp => by
      rcases List.mem_append.1 hp with hp | hp
      · exact h.skipped_later table path hp
      · exact ⟨table, by simp, List.mem_singleton.1 hp, h.fresh free⟩
    failed := h.failed_later table }

theorem refuse (h : Written dir before done writers report tree)
    (free : table.rival? done = none) (cause : SinkError) :
    Written dir before (done ++ [table]) writers (report.fail table.name (.sink cause)) tree :=
  { h with
    sublist := h.sublist.trans (List.sublist_append_left _ _)
    skipped := h.skipped_later table
    failed := fun name c hf => by
      rcases List.mem_append.1 hf with hf | hf
      · exact h.failed_later table name c hf
      · obtain ⟨rfl, -⟩ := Prod.mk.inj (List.mem_singleton.1 hf)
        exact ⟨table, by simp, rfl, h.fresh free⟩ }

theorem not_mem_concat (free : table.rival? done = none) {t : Table} (ht : t ∈ done)
    (other : t.file.path ∉ writers.map (·.file.path)) :
    t.file.path ∉ (writers ++ [table]).map (·.file.path) := by
  rw [List.map_append, List.mem_append]
  rintro (hm | hm)
  · exact other hm
  · exact Table.rival?_eq_none.1 free t ht (List.mem_singleton.1 hm)

theorem write (h : Written dir before done writers report tree)
    (free : table.rival? done = none) {d : Location}
    (admits : tree.Admits dir table.file.path d) :
    Written dir before (done ++ [table]) (writers ++ [table])
      (report.add (.written (table.pathIn dir)))
      (tree.set (table.file.path :: d) (.file table.file.content)) where
  sublist := h.sublist.append (List.Sublist.refl _)
  distinct := Tables.nodup_map_concat h.distinct (h.fresh free)
  written := by simp [Report.add, h.written]
  skipped path hp := by
    obtain ⟨t, ht, e, other⟩ := h.skipped path hp
    exact ⟨t, List.mem_append_left _ ht, e, not_mem_concat free ht other⟩
  failed name cause hf := by
    obtain ⟨t, ht, e, other⟩ := h.failed name cause hf
    exact ⟨t, List.mem_append_left _ ht, e, not_mem_concat free ht other⟩
  grows := h.grows.trans (admits.grows _)
  holds t ht := by
    rcases List.mem_append.1 ht with ht | ht
    · obtain ⟨d', holds⟩ := h.holds t ht
      exact ⟨d', holds.write admits (fun e => h.fresh free (e ▸ List.mem_map_of_mem ht)) _⟩
    · rw [List.mem_singleton.1 ht]
      exact ⟨d, admits.write _⟩
  frame l hl := by
    have grows := admits.grows table.file.content
    have hne : l ≠ table.file.path :: d := hl table (by simp) d (grows.follow admits.follow)
    rw [node?_set tree l _ (by simp), if_neg hne]
    rcases h.frame l fun t ht d' hd => hl t (List.mem_append_left _ ht) d' (grows.follow hd)
      with same | ⟨none, made, way⟩
    · exact .inl same
    · exact .inr ⟨none, made, way.grows grows⟩

end Written

/-! ## The run -/

/-- All tables are named by words. -/
def AllWords (tables : List Table) : Prop := ∀ t ∈ tables, Name.IsWord t.name

theorem AllWords.entry_of_mem {tables : List Table} {table : Table} (h : AllWords tables)
    (ht : table ∈ tables) : Path.IsEntry table.file.path := by
  rw [Table.file_path]
  exact (h table ht).modelFile

theorem AllWords.entry {done : List Table} {table : Table} (h : AllWords (done ++ [table])) :
    Path.IsEntry table.file.path :=
  h.entry_of_mem (by simp)

theorem AllWords.init {done : List Table} {table : Table} (h : AllWords (done ++ [table])) :
    AllWords done :=
  fun t ht => h t (List.mem_append_left _ ht)

theorem preserved_written (dir : String) (policy : OverwritePolicy) (before : FileTree) :
    Command.Preserved Workspace.host (Sink.files Workspace.host dir policy)
      fun done report w => AllWords done →
        ∃ writers, Written dir before done writers report w.tree where
  log _ h := h
  note _ h := h
  duplicate {done report w table first} h rival words := by
    obtain ⟨writers, written⟩ := h words.init
    exact ⟨writers, written.duplicate first.name⟩
  taken {done report w w' table outcome} h free emitted words := by
    obtain ⟨writers, written⟩ := h words.init
    have cases := emit_emitted dir policy table.file w
    rw [emitted] at cases
    rcases cases.tree with ⟨same, kept | ⟨cause, failed⟩⟩ | stored
    · obtain rfl := Except.ok.inj kept
      exact ⟨writers, same ▸ written.skip free⟩
    · cases failed
    · generalize w'.tree = tree' at stored
      cases stored with
      | written made wrote =>
        obtain ⟨d, admits, rfl⟩ := (writeFile_join words.entry).1 wrote
        exact ⟨writers ++ [table],
          (written.paves ((createDirectories_paver dir).paves made)).write free admits⟩
  refused {done report w w' table cause} h free emitted words := by
    obtain ⟨writers, written⟩ := h words.init
    refine ⟨writers, ?_⟩
    have cases := emit_emitted dir policy table.file w
    rw [emitted] at cases
    rcases cases.tree with ⟨same, -⟩ | stored
    · exact same ▸ written.refuse free cause
    · generalize w'.tree = tree' at stored ⊢
      cases stored with
      | noDirectory made =>
        exact (written.paves ((createDirectories_paver dir).paves made)).refuse free _
      | notWritten made _ =>
        exact (written.paves ((createDirectories_paver dir).paves made)).refuse free _

end WideColumn
