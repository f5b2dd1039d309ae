import WideColumn.Proofs.Command.Questions

/-!
# A run changes what it reports

`generate` over the file sink changes exactly the files that its report calls written, and has
nothing left to change when it is run again without asking. If it is to ask, a file that was there
is among the written ones just with a yes, but for one that comes into sight when the directory of
the models is made: that one is replaced without a question. All of this holds from every tree,
however the user replies and whatever fails on the way.

Main definitions: `Untouched`, `WritesOnly`.
Main result: `Command.generate_frame`.
-/

namespace WideColumn

open FileTree

/-! ## What changed -/

/-- The file at a path has the text that it had, and is no new one. -/
structure Untouched (before after : FileTree) (path : String) : Prop where
  kept : ∀ content, before.readFile path = .ok content → after.readFile path = .ok content
  notNew : ∀ l content, after.status path = .ok (l, .file content) →
    before.node? l = some (.file content)

/-- A run changed exactly the files that it reports as written. -/
structure WritesOnly (dir : String) (tables : List Table) (report : Report)
    (before after : FileTree) : Prop where
  /-- Each path that was written belongs to a table and holds the model of this table. -/
  contents : ∃ writers : List Table, writers.Sublist tables ∧
    report.written = writers.map (fun t => Path.join dir (Name.modelFile t.name)) ∧
    ∀ t ∈ writers, after.readFile (Path.join dir (Name.modelFile t.name)) =
      .ok (Model.ofTable t).content
  /-- No two of these paths lead to one file. -/
  distinct : (report.written.map after.location?).Nodup
  /-- Everything else is as it was, but for new directories on the way. -/
  frame : ∀ l, some l ∉ report.written.map after.location? →
    after.node? l = before.node? l ∨
      before.node? l = none ∧ after.node? l = some .directory ∧ after.OnTheWay dir l
  /-- So a path that leads to none of these files leads to what it led to before. -/
  untouched : ∀ path,
    (∀ l, after.location? path = some l → some l ∉ report.written.map after.location?) →
    Untouched before after path
  skipped : ∀ path ∈ report.skipped, path ∉ report.written ∧ Untouched before after path
  failed : ∀ name cause, (name, EmitError.sink cause) ∈ report.failed →
    Path.join dir (Name.modelFile name) ∉ report.written ∧
      Untouched before after (Path.join dir (Name.modelFile name))

namespace Written

variable {dir : String} {before tree : FileTree} {done writers : List Table} {report : Report}
  {table : Table}

theorem entry (h : Written dir before done writers report tree) (words : AllWords done)
    (ht : table ∈ writers) : Path.IsEntry table.file.path :=
  words.entry_of_mem (h.sublist.subset ht)

theorem status (h : Written dir before done writers report tree) (words : AllWords done)
    (ht : table ∈ writers) :
    ∃ d, tree.follow dir = .ok d ∧
      tree.status (table.pathIn dir) =
        .ok (table.file.path :: d, .file table.file.content) := by
  obtain ⟨d, holds⟩ := h.holds table ht
  exact ⟨d, holds.admits.follow, holds.admits.status (h.entry words ht) holds.content⟩

/-- A location below the directory is written exactly if it has the name of a writer's file. -/
theorem mem_locations (h : Written dir before done writers report tree) (words : AllWords done)
    {l : Location} :
    some l ∈ report.written.map tree.location? ↔
      ∃ t ∈ writers, ∃ d, tree.follow dir = .ok d ∧ l = t.file.path :: d := by
  rw [h.written, List.map_map, List.mem_map]
  constructor
  · rintro ⟨t, ht, hl⟩
    obtain ⟨d, follow, status⟩ := h.status words ht
    refine ⟨t, ht, d, follow, ?_⟩
    rw [Function.comp_apply, location?_of_status status] at hl
    exact (Option.some.inj hl).symm
  · rintro ⟨t, ht, d, follow, rfl⟩
    obtain ⟨d', follow', status⟩ := h.status words ht
    obtain rfl := Except.ok.inj (follow.symm.trans follow')
    refine ⟨t, ht, ?_⟩
    rw [Function.comp_apply, location?_of_status status]

theorem frame_locations (h : Written dir before done writers report tree)
    (words : AllWords done) {l : Location} (hl : some l ∉ report.written.map tree.location?) :
    tree.node? l = before.node? l ∨
      before.node? l = none ∧ tree.node? l = some .directory ∧ tree.OnTheWay dir l := by
  refine h.frame l fun t ht d follow e => hl ?_
  exact (h.mem_locations words).2 ⟨t, ht, d, follow, e⟩

theorem untouched (h : Written dir before done writers report tree) (words : AllWords done)
    {path : String}
    (hp : ∀ l, tree.location? path = some l → some l ∉ report.written.map tree.location?) :
    Untouched before tree path where
  kept content hr := by
    obtain ⟨l, status⟩ := readFile_ok_iff.1 hr
    obtain ⟨content', status'⟩ := h.grows.status_file status
    obtain ⟨-, -, -, file, -⟩ := status_ok_iff.1 status
    obtain ⟨-, -, -, file', -⟩ := status_ok_iff.1 status'
    refine readFile_ok_iff.2 ⟨l, ?_⟩
    rcases h.frame_locations words (hp l (location?_of_status status')) with same | ⟨none, -⟩
    · rw [same, file] at file'
      rw [status', ← Option.some.inj file']
    · rw [file] at none
      cases none
  notNew l content status := by
    obtain ⟨-, -, -, file, -⟩ := status_ok_iff.1 status
    rcases h.frame_locations words (hp l (location?_of_status status)) with same | ⟨-, made, -⟩
    · rw [← same, file]
    · rw [file] at made
      cases made

/-- The file of a table that is no writer is untouched, unless a writer has the same path. -/
theorem other (h : Written dir before done writers report tree) (words : AllWords done)
    (ht : table ∈ done) (hn : table.file.path ∉ writers.map (·.file.path)) :
    table.pathIn dir ∉ report.written ∧ Untouched before tree (table.pathIn dir) := by
  have entry := words.entry_of_mem ht
  refine ⟨fun hm => ?_, h.untouched words fun l hl hm => ?_⟩
  · rw [h.written] at hm
    obtain ⟨t, hw, e⟩ := List.mem_map.1 hm
    have taken : t.file.path ∈ writers.map (·.file.path) := List.mem_map_of_mem hw
    rw [Table.pathIn_injective (h.entry words hw) entry e] at taken
    exact hn taken
  · obtain ⟨node, status⟩ := status_of_location? hl
    obtain ⟨d, follow, -, e, -⟩ := status_join entry status
    obtain ⟨t, hw, d', follow', e'⟩ := (h.mem_locations words).1 hm
    have same : table.file.path = t.file.path := (List.cons.inj (e.symm.trans e')).1
    rw [same] at hn
    exact hn (List.mem_map_of_mem hw)

theorem writesOnly (h : Written dir before done writers report tree) (words : AllWords done) :
    WritesOnly dir done report before tree where
  contents := by
    refine ⟨writers, h.sublist, ?_, fun t ht => ?_⟩
    · simp [h.written, Table.pathIn, Table.file_path]
    · obtain ⟨d, -, status⟩ := h.status words ht
      rw [← Table.file_path, ← Table.file_content]
      exact readFile_ok_iff.2 ⟨_, status⟩
  distinct := by
    have names := h.distinct
    rw [List.Nodup, List.pairwise_map] at names
    rw [h.written, List.map_map, List.Nodup, List.pairwise_map]
    refine names.imp_of_mem fun {a b} ha hb ne e => ne ?_
    obtain ⟨d, -, statusA⟩ := h.status words ha
    obtain ⟨d', -, statusB⟩ := h.status words hb
    rw [Function.comp_apply, Function.comp_apply, location?_of_status statusA,
      location?_of_status statusB] at e
    exact (List.cons.inj (Option.some.inj e)).1
  frame l hl := h.frame_locations words hl
  untouched path hp := h.untouched words hp
  skipped path hp := by
    obtain ⟨t, ht, rfl, hn⟩ := h.skipped path hp
    exact h.other words ht hn
  failed name cause hf := by
    obtain ⟨t, ht, rfl, hn⟩ := h.failed name cause hf
    rw [← Table.file_path]
    exact h.other words ht hn

end Written

/-! ## The whole run -/

namespace Command

/-- Loading tables asks nothing and changes no file. -/
theorem loadTables_quiet (fixture : Fixture) (keyspace : String) (requested : List String)
    (w : Workspace) :
    (loadTables Workspace.host fixture keyspace requested w).2.tree = w.tree ∧
      Workspace.Silent w (loadTables Workspace.host fixture keyspace requested w).2 := by
  refine loadTables_preserves Workspace.host
    (P := fun w' => w'.tree = w.tree ∧ Workspace.Silent w w') ?_ fixture keyspace requested
    ⟨rfl, rfl, rfl⟩
  rintro record w' ⟨tree, silent⟩
  exact ⟨tree, silent.replies, (Workspace.questions_logged w' record).trans silent.questions⟩

/-- A run over the file sink changes exactly the files that it reports as written. If the user is to
be asked, a file that was there is among them just with a yes for its path, unless the path was
overlooked, which takes a directory that climbs. If not, the same run changes nothing when it is
made again. -/
theorem generate_frame {fixture : Fixture} {keyspace : String} {requested : List String}
    {tables : List Table} (loaded : fixture.tables keyspace requested = .ok tables)
    (words : ∀ t ∈ tables, Name.IsWord t.name) (dir : String) (policy : OverwritePolicy)
    (w : Workspace) :
    ∃ report w',
      generate Workspace.host (Sink.files Workspace.host dir policy) fixture keyspace requested w =
        (.ok report, w') ∧
      WritesOnly dir tables report w.tree w'.tree ∧
      (policy = .ask → ∃ asked : List String,
        w'.questions = w.questions ++ asked.map Sink.question ∧
        (∀ path ∈ asked, path.toList <:+: (Sink.question path).toList) ∧
        ∀ path ∈ report.written, ∀ l old, w'.tree.location? path = some l →
          w.tree.node? l = some (.file old) →
            (GotYes w.replies asked path ↔ ¬ Overlooked dir tables w.tree path) ∧
            (Overlooked dir tables w.tree path → w.tree.IsRooted →
              ".." ∈ Path.names dir.toList)) ∧
      (policy = .always → ∃ report' w'',
        generate Workspace.host (Sink.files Workspace.host dir policy) fixture keyspace requested
          w' = (.ok report', w'') ∧
        SameNodes w'.tree w''.tree ∧ report'.written = report.written) := by
  obtain ⟨w₀, read, run⟩ :=
    generate_ok Workspace.host (Sink.files Workspace.host dir policy) loaded w
  obtain ⟨tree, silent⟩ := loadTables_quiet fixture keyspace requested w
  rw [read] at tree silent
  obtain ⟨writers, written⟩ := (preserved_written dir policy w.tree).generateModels tables (s := w₀)
    (fun _ => ⟨[], tree ▸ .nil dir w.tree⟩) words
  -- The three invariants start from the workspace after loading, which the log alone tells apart.
  refine ⟨_, _, run, written.writesOnly words, ?_, ?_⟩
  · rintro rfl
    obtain ⟨asked, consented⟩ := (preserved_consented dir w).generateModels tables (s := w₀)
      (fun _ => ⟨[], (Consented.refl dir w).idle silent tree⟩) words
    refine ⟨asked, consented.questions, fun path _ => Sink.path_infix_question path, ?_⟩
    intro path hp l old leads there
    obtain ⟨t, ht, rfl⟩ := consented.writtenDone path hp
    exact ⟨consented.gotYes_iff hp leads there, fun overlooked rooted =>
      consented.climbs rooted (AllWords.entry_of_mem words ht) overlooked.missing leads there⟩
  · rintro rfl
    have settled := (preserved_settled dir).generateModels tables (s := w₀)
      (fun _ => .nil dir w₀.tree) words
    generalize generateModels Workspace.host (Sink.files Workspace.host dir .always) tables w₀ =
      first at settled
    obtain ⟨w₁, read', run'⟩ :=
      generate_ok Workspace.host (Sink.files Workspace.host dir .always) loaded first.2
    obtain ⟨tree', -⟩ := loadTables_quiet fixture keyspace requested first.2
    rw [read'] at tree'
    have repeated := (preserved_repeated settled words).generateModels tables (s := w₁)
      (fun _ => { same := .inl tree', written := rfl }) List.prefix_rfl
    exact ⟨_, _, run', repeated.nodes, repeated.written.trans settled.written.symm⟩

/-- A project with a file and a model, and without drafts. -/
def project : Workspace where
  tree :=
    { nodes :=
        [(["work"], .directory), (["note.ts", "work"], .file "kept"),
          (["models", "work"], .directory), (["user.ts", "models", "work"], .file "kept")]
      workingDirectory := ["work"] }

/-- The project with one more model. The user says yes to the first question and no to the next. -/
def reviewed : Workspace where
  tree := project.tree.set ["post.ts", "models", "work"] (.file "kept")
  replies := [.yes, .no]

/-- Two tables of one path, below a directory that has to be made, and two models that the user is
asked about. -/
theorem generate_frame_users :
    (Fixture.ofRows [singleRow "users", singleRow "user"]).tables "chat" [] =
        .ok [single "users", single "user"] ∧
      (∀ t ∈ [single "users", single "user"], Name.IsWord t.name) ∧
      (∃ report w',
        generate Workspace.host (Sink.files Workspace.host "src/models" .always)
            (Fixture.ofRows [singleRow "users", singleRow "user"]) "chat" []
            { tree := .standard "/work" } = (.ok report, w') ∧
        WritesOnly "src/models" [single "users", single "user"] report (.standard "/work")
          w'.tree ∧
        ∃ report' w'',
          generate Workspace.host (Sink.files Workspace.host "src/models" .always)
            (Fixture.ofRows [singleRow "users", singleRow "user"]) "chat" [] w' =
              (.ok report', w'') ∧
          SameNodes w'.tree w''.tree ∧ report'.written = report.written) ∧
      ∃ report w' asked,
        generate Workspace.host (Sink.files Workspace.host "models" .ask)
            (Fixture.ofRows [singleRow "users", singleRow "posts"]) "chat" [] reviewed =
              (.ok report, w') ∧
        report.written = ["models/user.ts"] ∧ report.skipped = ["models/post.ts"] ∧
        WritesOnly "models" [single "users", single "posts"] report reviewed.tree w'.tree ∧
        w'.questions = asked.map Sink.question ∧
        GotYes reviewed.replies asked "models/user.ts" := by
  have loaded : (Fixture.ofRows [singleRow "users", singleRow "user"]).tables "chat" [] =
      .ok [single "users", single "user"] := rfl
  have words : ∀ t ∈ [single "users", single "user"], Name.IsWord t.name :=
    List.forall_mem_cons.mpr ⟨by decide, List.forall_mem_singleton.mpr (by decide)⟩
  obtain ⟨report, w', run, only, -, again⟩ := generate_frame loaded words "src/models" .always
    { tree := .standard "/work" }
  refine ⟨loaded, words, ⟨report, w', run, only, again rfl⟩, ?_⟩
  have loaded' : (Fixture.ofRows [singleRow "users", singleRow "posts"]).tables "chat" [] =
      .ok [single "users", single "posts"] := rfl
  have words' : ∀ t ∈ [single "users", single "posts"], Name.IsWord t.name :=
    List.forall_mem_cons.mpr ⟨by decide, List.forall_mem_singleton.mpr (by decide)⟩
  obtain ⟨report, w', run, only, asks, -⟩ := generate_frame loaded' words' "models" .ask reviewed
  obtain ⟨asked, questions, -, consent⟩ := asks rfl
  have result : (generate Workspace.host (Sink.files Workspace.host "models" .ask)
      (Fixture.ofRows [singleRow "users", singleRow "posts"]) "chat" [] reviewed).1.toOption.map
        (fun report => (report.written, report.skipped)) =
      some (["models/user.ts"], ["models/post.ts"]) := by decide +kernel
  have leads : (generate Workspace.host (Sink.files Workspace.host "models" .ask)
      (Fixture.ofRows [singleRow "users", singleRow "posts"]) "chat" [] reviewed).2.tree.location?
        "models/user.ts" = some ["user.ts", "models", "work"] := by decide +kernel
  rw [run] at result leads
  obtain ⟨written, skipped⟩ := Prod.mk.inj (Option.some.inj result)
  have ready : reviewed.tree.IsReady "models" := by decide +kernel
  have yes := (consent "models/user.ts" (by simp [written]) _ "kept" leads (by decide)).1.2
    fun overlooked => overlooked.missing ready
  exact ⟨report, w', asked, run, written, skipped, only, questions, yes⟩

/-- A model that was there comes into sight when the directory for drafts is made, and is replaced
without a question. -/
theorem generate_frame_overlooked :
    let result := generate Workspace.host (Sink.files Workspace.host "drafts/../models" .ask)
      (Fixture.ofRows [singleRow "users"]) "chat" [] project
    project.tree.node? ["user.ts", "models", "work"] = some (.file "kept") ∧
      result.1.toOption.map (·.written) = some ["drafts/../models/user.ts"] ∧
      result.2.tree.location? "drafts/../models/user.ts" = some ["user.ts", "models", "work"] ∧
      result.2.tree.node? ["user.ts", "models", "work"] ≠ some (.file "kept") ∧
      result.2.questions = [] := by
  decide +kernel

end Command

end WideColumn
