import WideColumn.Command.Init
import WideColumn.Proofs.Command.Frame
import WideColumn.Proofs.Model.Content

/-!
# Models and support files in one directory

Setting up a directory writes the support files that every model imports. Generating into the same
directory without questions keeps each of them unless a table has its name for a model, and nothing
keeps a table from that: the claims of a run know of other tables only. Then the model of the first
such table takes the place of the support file.

Main definitions: `FileTree.Keeps`, `Tables.textAt`.
Main result: `Command.generate_keeps_support_iff`.
-/

namespace WideColumn

/-! ## One file -/

namespace FileTree

variable {tree tree' : FileTree} {dir name content text : String}

/-- The directory is there, and its file of the name has the text. -/
structure Keeps (tree : FileTree) (dir name content : String) : Prop where
  ready : tree.IsReady dir
  holds : ∃ d, tree.Holds dir name content d

theorem Keeps.readFile (h : tree.Keeps dir name content) (entry : Path.IsEntry name) :
    tree.readFile (Path.join dir name) = .ok content := by
  obtain ⟨d, holds⟩ := h.holds
  exact readFile_ok_iff.2 ⟨_, holds.admits.status entry holds.content⟩

/-- A file that was written is kept from then on. -/
theorem keeps_of_written (entry : Path.IsEntry name)
    (made : tree.createDirectories dir = (.ok (), tree'))
    {tree'' : FileTree} (wrote : tree'.writeFile (Path.join dir name) text = .ok tree'') :
    tree''.Keeps dir name text := by
  obtain ⟨d, admits, rfl⟩ := (writeFile_join entry).1 wrote
  have ready : tree'.IsReady dir := (createDirectories_paver dir).ok made
  exact ⟨(admits.grows text).isReady ready, d, admits.write text⟩

variable {answer : Except SinkError Outcome}

/-- Storing a file keeps the files of other names. -/
theorem Keeps.other {other : String} (h : tree.Keeps dir name content)
    (entry : Path.IsEntry other) (hne : name ≠ other)
    (stored : Stored dir (Path.join dir other) text tree answer tree') :
    tree'.Keeps dir name content := by
  obtain ⟨d, holds⟩ := h.holds
  have done := (createDirectories_paver dir).done h.ready
  cases stored with
  | noDirectory made =>
    rw [done] at made
    cases made
  | notWritten made _ =>
    rw [done] at made
    obtain ⟨-, rfl⟩ := Prod.mk.inj made
    exact h
  | written made wrote =>
    rw [done] at made
    obtain ⟨-, rfl⟩ := Prod.mk.inj made
    obtain ⟨d', admits, rfl⟩ := (writeFile_join entry).1 wrote
    exact ⟨(admits.grows text).isReady h.ready, d, holds.write admits hne text⟩

/-- Storing a file of the same name replaces the text. It cannot fail, for the file is there. -/
theorem Keeps.replaced (h : tree.Keeps dir name content) (entry : Path.IsEntry name)
    (stored : Stored dir (Path.join dir name) text tree answer tree') :
    tree'.Keeps dir name text := by
  obtain ⟨d, holds⟩ := h.holds
  have done := (createDirectories_paver dir).done h.ready
  cases stored with
  | noDirectory made =>
    rw [done] at made
    cases made
  | notWritten made failed =>
    rw [done] at made
    obtain ⟨-, rfl⟩ := Prod.mk.inj made
    rw [holds.admits.writeFile entry text] at failed
    cases failed
  | written made wrote => exact keeps_of_written entry made wrote

end FileTree

open FileTree

/-! ## Setting up -/

namespace Command

variable {dir : String} {policy : OverwritePolicy} {w w' : Workspace}

/-- A file that the sink calls written was stored. -/
theorem stored_of_written {file : GeneratedFile} {path : String}
    (h : (Sink.files Workspace.host dir policy).emit file w = (.ok (.written path), w')) :
    Stored dir (Path.join dir file.path) file.content w.tree (.ok (.written path)) w'.tree := by
  have cases := (emit_emitted dir policy file w).tree
  rw [h] at cases
  rcases cases with ⟨-, kept | ⟨cause, failed⟩⟩ | stored
  · cases kept
  · cases failed
  · exact stored

theorem emitSupport_cons (file : GeneratedFile) (rest : List GeneratedFile) :
    emitSupport Workspace.host (Sink.files Workspace.host dir policy) (file :: rest) w =
      match (Sink.files Workspace.host dir policy).emit file w with
      | (.error e, w₁) => (.error (.sink e), w₁)
      | (.ok outcome, w₁) =>
        let after := emitSupport Workspace.host (Sink.files Workspace.host dir policy) rest
          (noteSupport Workspace.host outcome w₁).2
        (after.1.map (outcome :: ·), after.2) := by
  conv => lhs; unfold emitSupport
  rw [bind_apply]
  rcases (Sink.files Workspace.host dir policy).emit file w with ⟨_ | _, w₁⟩ <;> rfl

theorem noteSupport_tree (outcome : Outcome) (w : Workspace) :
    (noteSupport Workspace.host outcome w).2.tree = w.tree := by
  cases outcome <;> rfl

/-- What the sink says of files that it wrote. -/
def allWritten (dir : String) (files : List GeneratedFile) : List Outcome :=
  files.map fun file => .written (Path.join dir file.path)

/-- Files of different names that were all written are all kept, and so is every other file. -/
theorem emitSupport_keeps {files : List GeneratedFile} (entries : ∀ f ∈ files, Path.IsEntry f.path)
    (distinct : (files.map (·.path)).Nodup)
    (h : emitSupport Workspace.host (Sink.files Workspace.host dir policy) files w =
      (.ok (allWritten dir files), w')) :
    (∀ f ∈ files, w'.tree.Keeps dir f.path f.content) ∧
      ∀ name content, name ∉ files.map (·.path) → w.tree.Keeps dir name content →
        w'.tree.Keeps dir name content := by
  -- The second part carries the induction: for the files behind it, a file is one of the others.
  induction files generalizing w with
  | nil =>
    cases h
    exact ⟨by simp, fun _ _ _ keeps => keeps⟩
  | cons file rest ih =>
    rw [List.forall_mem_cons] at entries
    rw [List.map_cons, List.nodup_cons] at distinct
    rw [emitSupport_cons] at h
    split at h
    · cases h
    case _ outcome w₁ emitted =>
      dsimp only at h
      generalize hafter : emitSupport Workspace.host (Sink.files Workspace.host dir policy) rest
        (noteSupport Workspace.host outcome w₁).2 = after at h
      obtain ⟨answers, w₂⟩ := after
      obtain ⟨hanswers, rfl⟩ := Prod.mk.inj h
      cases answers with
      | error e => cases hanswers
      | ok outcomes =>
        obtain ⟨rfl, rfl⟩ := List.cons.inj (Except.ok.inj hanswers)
        have stored := stored_of_written emitted
        obtain ⟨hrest, hkept⟩ := ih entries.2 distinct.2 hafter
        rw [noteSupport_tree] at hkept
        have hfile : w₁.tree.Keeps dir file.path file.content := by
          generalize w₁.tree = tree at stored
          cases stored with
          | written made wrote => exact keeps_of_written entries.1 made wrote
        refine ⟨List.forall_mem_cons.mpr ⟨hkept _ _ distinct.1 hfile, hrest⟩, ?_⟩
        intro name content hname keeps
        rw [List.map_cons, List.mem_cons, not_or] at hname
        exact hkept name content hname.2 (keeps.other entries.1 hname.1 stored)

end Command

/-! ## Generating -/

namespace Tables

/-- The text at a name after models were written over one: that of the first table with the name, or
else the text that was there. -/
def textAt (name content : String) (tables : List Table) : String :=
  ((tables.find? (·.file.path = name)).map (·.file.content)).getD content

variable {name content : String} {done : List Table} {table : Table}

theorem textAt_concat_other (h : table.file.path ≠ name) :
    textAt name content (done ++ [table]) = textAt name content done := by
  simp [textAt, List.find?_append, h]

theorem textAt_concat_claimed {first : Table} (h : table.rival? done = some first) :
    textAt name content (done ++ [table]) = textAt name content done := by
  by_cases hname : table.file.path = name
  · subst hname
    rw [Table.rival?] at h
    simp [textAt, List.find?_append, h]
  · exact textAt_concat_other hname

theorem textAt_concat_free (h : table.rival? done = none) :
    textAt table.file.path content (done ++ [table]) = table.file.content := by
  rw [Table.rival?] at h
  simp [textAt, List.find?_append, h]

/-- The text that was there is kept just if no table has the name, as long as no model has that
text. -/
theorem textAt_eq_iff (hcontent : ∀ t : Table, t.file.content ≠ content) :
    textAt name content done = content ↔ ∀ t ∈ done, t.file.path ≠ name := by
  cases hfind : done.find? (·.file.path = name) with
  | none =>
    rw [textAt, hfind]
    simpa using hfind
  | some t =>
    have hname : t.file.path = name := by simpa using List.find?_some hfind
    rw [textAt, hfind]
    constructor
    · intro h
      exact absurd h (hcontent t)
    · intro h
      exact absurd hname (h t (List.mem_of_find?_eq_some hfind))

end Tables

/-- A run without questions keeps the text at a name up to the first table that has the name. -/
theorem preserved_textAt {dir name : String} (entry : Path.IsEntry name) (content : String) :
    Command.Preserved Workspace.host (Sink.files Workspace.host dir .always)
      fun done _ w => AllWords done → w.tree.Keeps dir name (Tables.textAt name content done) := by
  have stored : ∀ {done : List Table} {table : Table} {answer : Except SinkError Outcome}
      {tree tree' : FileTree}, AllWords (done ++ [table]) → table.rival? done = none →
      tree.Keeps dir name (Tables.textAt name content done) →
      Stored dir (Path.join dir table.file.path) table.file.content tree answer tree' →
      tree'.Keeps dir name (Tables.textAt name content (done ++ [table])) := by
    intro done table answer tree tree' words free keeps stored
    by_cases hname : table.file.path = name
    · subst hname
      rw [Tables.textAt_concat_free free]
      exact keeps.replaced words.entry stored
    · rw [Tables.textAt_concat_other hname]
      exact keeps.other words.entry (fun e => hname e.symm) stored
  exact
    { log := fun _ h => h
      note := fun _ h => h
      duplicate := fun h rival words => by
        rw [Tables.textAt_concat_claimed rival]
        exact h words.init
      taken := fun h free emitted words =>
        stored words free (h words.init) (emit_always emitted)
      refused := fun h free emitted words =>
        stored words free (h words.init) (emit_always emitted) }

namespace SupportFile

theorem isEntry : ∀ file ∈ all, Path.IsEntry file.path := by
  intro file hfile
  simp only [all, List.mem_cons, List.not_mem_nil, or_false] at hfile
  rcases hfile with rfl | rfl
  · exact ⟨⟨by decide, by decide⟩, by decide, by decide⟩
  · exact ⟨⟨by decide, by decide⟩, by decide, by decide⟩

theorem nodup_paths : (all.map (·.path)).Nodup := by decide

/-! ### Texts -/

theorem toList_ofLines_cons (line : String) (rest : List String) :
    (ofLines (line :: rest)).toList = line.toList ++ '\n' :: (ofLines rest).toList := by
  simp [ofLines, String.toList_join]

theorem toList_client : ∃ rest, client.content.toList =
    "import cassandra from 'cassandra-driver';".toList ++ '\n' :: '\n' :: rest := by
  have hlines : ∃ lines, clientLines = "import cassandra from 'cassandra-driver';" :: "" :: lines :=
    ⟨_, rfl⟩
  obtain ⟨lines, hlines⟩ := hlines
  refine ⟨(ofLines lines).toList, ?_⟩
  rw [show client.content = ofLines clientLines from rfl, hlines, toList_ofLines_cons,
    toList_ofLines_cons, String.toList_empty, List.nil_append]

theorem toList_clusteringOrder : ∃ rest, clusteringOrder.content.toList = '/' :: rest := by
  have hlines : ∃ lines, clusteringOrderLines = "/**" :: lines := ⟨_, rfl⟩
  obtain ⟨lines, hlines⟩ := hlines
  refine ⟨"**".toList ++ '\n' :: (ofLines lines).toList, ?_⟩
  rw [show clusteringOrder.content = ofLines clusteringOrderLines from rfl, hlines,
    toList_ofLines_cons]
  rfl

/-- No model is a support file, for none of these imports the client. -/
theorem content_ne (table : Table) : ∀ file ∈ all, table.file.content ≠ file.content := by
  intro file hfile h
  obtain ⟨rest, hrest⟩ := Model.imports_prefix table (KeyModel.ofTable table)
  have hdriver : Declaration.importDriver.text.toList =
      "import cassandra from 'cassandra-driver';".toList ++ ['\n'] := rfl
  have hclient : ∃ more, Declaration.importClient.text.toList = 'i' :: more := ⟨_, rfl⟩
  obtain ⟨more, hmore⟩ := hclient
  rw [← Model.ofTable, ← Table.file_content, h, hdriver, hmore] at hrest
  simp only [all, List.mem_cons, List.not_mem_nil, or_false] at hfile
  rcases hfile with rfl | rfl
  · obtain ⟨lines, hlines⟩ := toList_client
    rw [hlines, List.append_assoc, List.append_assoc] at hrest
    have hsecond := (List.cons.inj (List.append_cancel_left hrest)).2
    exact absurd (List.cons.inj hsecond).1 (by decide)
  · obtain ⟨lines, hlines⟩ := toList_clusteringOrder
    rw [hlines] at hrest
    exact absurd (List.cons.inj hrest).1 (by decide)

end SupportFile

namespace Command

/-- What generating without questions leaves at a name of the directory, if there was a file. -/
theorem readFile_generate {fixture : Fixture} {keyspace : String} {requested : List String}
    {tables : List Table} (loaded : fixture.tables keyspace requested = .ok tables)
    (words : ∀ t ∈ tables, Name.IsWord t.name) {dir name content : String}
    (entry : Path.IsEntry name) {w : Workspace} (keeps : w.tree.Keeps dir name content) :
    (generate Workspace.host (Sink.files Workspace.host dir .always) fixture keyspace requested
        w).2.tree.readFile (Path.join dir name) =
      .ok (Tables.textAt name content tables) := by
  obtain ⟨w₀, read, run⟩ :=
    generate_ok Workspace.host (Sink.files Workspace.host dir .always) loaded w
  have quiet := (loadTables_quiet fixture keyspace requested w).1
  rw [read] at quiet
  have after := (preserved_textAt entry content).generateModels tables (s := w₀)
    (fun _ => by rw [quiet]; exact keeps) words
  rw [run, after.readFile entry]

/-- After the support files were written, generating into their directory without questions keeps
each of them just if no table has its name for a model. -/
theorem generate_keeps_support_iff (fixture : Fixture) (keyspace : String)
    (requested : List String)
    (words : ∀ tables, fixture.tables keyspace requested = .ok tables →
      ∀ t ∈ tables, Name.IsWord t.name)
    {dir : String} {policy : OverwritePolicy} {w w₁ : Workspace}
    (initialized : init Workspace.host (Sink.files Workspace.host dir policy) w =
      (.ok (SupportFile.all.map fun file => .written (Path.join dir file.path)), w₁)) :
    ∀ file ∈ SupportFile.all,
      w₁.tree.readFile (Path.join dir file.path) = .ok file.content ∧
        ((generate Workspace.host (Sink.files Workspace.host dir .always) fixture keyspace
            requested w₁).2.tree.readFile (Path.join dir file.path) = .ok file.content ↔
          ∀ tables, fixture.tables keyspace requested = .ok tables →
            ∀ t ∈ tables, Name.modelFile t.name ≠ file.path) := by
  intro file hfile
  have entry := SupportFile.isEntry file hfile
  have keeps : w₁.tree.Keeps dir file.path file.content :=
    (emitSupport_keeps SupportFile.isEntry SupportFile.nodup_paths initialized).1 file hfile
  refine ⟨keeps.readFile entry, ?_⟩
  -- A run that cannot load its tables writes nothing, and it has no tables.
  cases loaded : fixture.tables keyspace requested with
  | error e =>
    have refused : (generate Workspace.host (Sink.files Workspace.host dir .always) fixture keyspace
        requested w₁).2 = w₁ := by
      unfold generate loadTables
      rw [loaded]
      rfl
    rw [refused, keeps.readFile entry]
    simp
  | ok tables =>
    rw [readFile_generate loaded (words tables loaded) entry keeps, Except.ok.injEq,
      Tables.textAt_eq_iff fun t => SupportFile.content_ne t file hfile]
    simp [Table.file_path]

/-- In an empty project the support files are all written. -/
theorem init_standard : ∃ w₁,
    init Workspace.host (Sink.files Workspace.host "src/models" .ask)
        { tree := .standard "/work" } =
      (.ok (SupportFile.all.map fun file => .written (Path.join "src/models" file.path)), w₁) := by
  have written : (init Workspace.host (Sink.files Workspace.host "src/models" .ask)
      { tree := .standard "/work" }).1.toOption =
        some (SupportFile.all.map fun file => .written (Path.join "src/models" file.path)) := by
    decide +kernel
  -- What the run leaves behind must not be evaluated along with its answer.
  generalize init Workspace.host (Sink.files Workspace.host "src/models" .ask)
    { tree := .standard "/work" } = run at written ⊢
  obtain ⟨answer, w₁⟩ := run
  cases answer with
  | error e => cases written
  | ok outcomes => exact ⟨w₁, by rw [Option.some.inj written]⟩

/-- A table of users leaves both support files alone. -/
theorem generate_keeps_support_users : ∃ w₁,
    init Workspace.host (Sink.files Workspace.host "src/models" .ask)
        { tree := .standard "/work" } =
      (.ok (SupportFile.all.map fun file => .written (Path.join "src/models" file.path)), w₁) ∧
      (∀ tables, (Fixture.ofRows [singleRow "users"]).tables "chat" [] = .ok tables →
        ∀ t ∈ tables, Name.IsWord t.name) ∧
      ∀ file ∈ SupportFile.all,
        (generate Workspace.host (Sink.files Workspace.host "src/models" .always)
          (Fixture.ofRows [singleRow "users"]) "chat" [] w₁).2.tree.readFile
            (Path.join "src/models" file.path) = .ok file.content := by
  obtain ⟨w₁, initialized⟩ := init_standard
  have loaded : (Fixture.ofRows [singleRow "users"]).tables "chat" [] = .ok [single "users"] := rfl
  have words : ∀ tables, (Fixture.ofRows [singleRow "users"]).tables "chat" [] = .ok tables →
      ∀ t ∈ tables, Name.IsWord t.name := by
    intro tables h t ht
    obtain rfl := Except.ok.inj (loaded.symm.trans h)
    obtain rfl := List.mem_singleton.mp ht
    decide
  refine ⟨w₁, initialized, words, fun file hfile => ?_⟩
  refine (generate_keeps_support_iff (Fixture.ofRows [singleRow "users"]) "chat" [] words
    initialized file hfile).2.mpr ?_
  intro tables h t ht
  obtain rfl := Except.ok.inj (loaded.symm.trans h)
  obtain rfl := List.mem_singleton.mp ht
  have other : ∀ file ∈ SupportFile.all, Name.modelFile "users" ≠ file.path := by decide
  exact other file hfile

/-- A table of clients has the client's name for its model, which takes the place of the client. -/
theorem generate_replaces_client : ∃ w₁,
    init Workspace.host (Sink.files Workspace.host "src/models" .ask)
        { tree := .standard "/work" } =
      (.ok (SupportFile.all.map fun file => .written (Path.join "src/models" file.path)), w₁) ∧
      Name.modelFile "db_clients" = SupportFile.client.path ∧
      (generate Workspace.host (Sink.files Workspace.host "src/models" .always)
        (Fixture.ofRows [singleRow "db_clients"]) "chat" [] w₁).2.tree.readFile
          (Path.join "src/models" SupportFile.client.path) ≠ .ok SupportFile.client.content := by
  obtain ⟨w₁, initialized⟩ := init_standard
  have loaded : (Fixture.ofRows [singleRow "db_clients"]).tables "chat" [] =
      .ok [single "db_clients"] := rfl
  have words : ∀ t ∈ [single "db_clients"], Name.IsWord t.name := by
    intro t ht
    obtain rfl := List.mem_singleton.mp ht
    decide
  have hclient : SupportFile.client ∈ SupportFile.all := List.mem_cons_self
  have keeps : w₁.tree.Keeps "src/models" SupportFile.client.path SupportFile.client.content :=
    (emitSupport_keeps SupportFile.isEntry SupportFile.nodup_paths initialized).1 _ hclient
  have name : Name.modelFile "db_clients" = SupportFile.client.path := by decide
  refine ⟨w₁, initialized, name, ?_⟩
  rw [readFile_generate loaded words (SupportFile.isEntry _ hclient) keeps, ne_eq,
    Except.ok.injEq, Tables.textAt_eq_iff fun t => SupportFile.content_ne t _ hclient]
  intro h
  exact h (single "db_clients") List.mem_cons_self ((Table.file_path _).trans name)

end Command

end WideColumn
