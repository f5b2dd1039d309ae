import WideColumn.Proofs.Command.Support

/-!
# Files out of sight

Whether the user is asked is decided before the directory is made. A path that climbs out of a
directory that is missing leads nowhere until then, so a file that it leads to afterwards is
replaced without a question. That is the only way around the user: every other file that was there
keeps its text unless the user agreed, and this holds for one file that is handed to the sink as
well as for whole runs.

Main definitions: `FileTree.Unseen`, `Heeded`.
Main result: `Command.overwrites_unseen`.
-/

namespace WideColumn

open FileTree

/-! ## Storing -/

/-- A path leads nowhere, but to the file at a location as soon as a directory is made. -/
def FileTree.Unseen (tree : FileTree) (dir path : String) (l : Location) : Prop :=
  tree.isPresent path = false ∧ ∃ tree' text,
    tree.createDirectories dir = (.ok (), tree') ∧ tree'.status path = .ok (l, .file text)

section Stored

variable {dir path content old : String} {tree tree' : FileTree} {l : Location}
  {answer : Except SinkError Outcome}

/-- What storing does to a file that was there: nothing, unless the path leads to it once the
directory is made. -/
theorem Stored.file (h : Stored dir path content tree answer tree')
    (there : tree.node? l = some (.file old)) :
    tree'.node? l = some (.file old) ∨
      tree'.node? l = some (.file content) ∧ tree'.location? path = some l ∧
        ∃ made, tree.createDirectories dir = (.ok (), made) ∧
          made.status path = .ok (l, .file old) := by
  have kept : ∀ {answer made}, tree.createDirectories dir = (answer, made) →
      made.node? l = some (.file old) := by
    intro answer made hmade
    rcases ((createDirectories_paver dir).paves hmade).frame l with same | ⟨missing, -⟩
    · rw [same, there]
    · rw [there] at missing
      cases missing
  cases h with
  | noDirectory made => exact .inl (kept made)
  | notWritten made _ => exact .inl (kept made)
  | @written made _ hmade wrote =>
    obtain ⟨target, root, free, rfl, found⟩ := writeFile_ok wrote
    by_cases hl : l = target
    · subst hl
      have new : (made.set l (.file content)).node? l = some (.file content) := by
        rw [node?_set made _ _ root, if_pos rfl]
      exact .inr ⟨new, location?_of_status (found (.set_file root free content) new), made, hmade,
        found (.refl made) (kept hmade)⟩
    · rw [node?_set made _ _ root, if_neg hl]
      exact .inl (kept hmade)

/-- A file that comes into sight is replaced. -/
theorem Stored.unseen (h : Stored dir path content tree answer tree') (rooted : tree.IsRooted)
    (unseen : tree.Unseen dir path l) : tree'.node? l = some (.file content) := by
  obtain ⟨-, made, text, hmade, hstatus⟩ := unseen
  have writes := writeFile_of_status (rooted.createDirectories hmade) hstatus content
  cases h with
  | noDirectory failed =>
    rw [hmade] at failed
    cases failed
  | notWritten hmade' refused =>
    rw [hmade] at hmade'
    obtain ⟨-, rfl⟩ := Prod.mk.inj hmade'
    rw [writes] at refused
    cases refused
  | written hmade' wrote =>
    rw [hmade] at hmade'
    obtain ⟨-, rfl⟩ := Prod.mk.inj hmade'
    obtain rfl := Except.ok.inj (writes.symm.trans wrote)
    have root : l ≠ [] := by
      rintro rfl
      obtain ⟨-, -, -, file, -⟩ := status_ok_iff.1 hstatus
      cases file
    rw [node?_set made _ _ root, if_pos rfl]

end Stored

/-- A path that led nowhere leads to a file that was there: a directory was missing, and the path
climbs out of it. -/
structure Surfaced (dir path : String) (before after : FileTree) (l : Location) : Prop where
  missing : ¬ before.IsReady dir
  absent : before.isPresent path = false
  climbs : ".." ∈ Path.names path.toList
  leads : after.location? path = some l

section Surfaced

variable {dir path old text : String} {before tree made after : FileTree} {l : Location}

theorem Surfaced.grows (h : Surfaced dir path before tree l) (grows : Grows tree after) :
    Surfaced dir path before after l :=
  { h with leads := grows.location? h.leads }

/-- What comes into sight later in a run was out of sight from the beginning. -/
theorem surfaced_of_unseen (rooted : before.IsRooted) (grows : Grows before tree)
    (there : before.node? l = some (.file old)) (absent : tree.isPresent path = false)
    (hmade : tree.createDirectories dir = (.ok (), made))
    (found : made.status path = .ok (l, .file text)) (leads : after.location? path = some l) :
    Surfaced dir path before after l where
  missing ready := by
    -- The tree would not change, but the path leads nowhere in it.
    rw [(createDirectories_paver dir).done (grows.isReady ready)] at hmade
    obtain ⟨-, rfl⟩ := Prod.mk.inj hmade
    rw [isPresent_iff.2 ⟨l, _, found⟩] at absent
    cases absent
  absent := by
    rw [← Bool.not_eq_true]
    intro present
    rw [grows.isPresent present] at absent
    cases absent
  climbs := by
    by_contra noClimb
    have seen := status_of_noClimb rooted
      (grows.trans ((createDirectories_paver dir).paves hmade).grows) found there noClimb
    rw [grows.isPresent (isPresent_iff.2 ⟨l, _, seen⟩)] at absent
    cases absent
  leads := leads

end Surfaced

/-! ## One file -/

/-- The user was asked about a path that leads to the file at a location, and agreed. -/
structure Agreed (path : String) (l : Location) (w w' : Workspace) : Prop where
  asked : w'.questions = w.questions ++ [Sink.question path]
  yes : w.nextReply = .yes
  leads : w.tree.location? path = some l

namespace Sink

variable {dir old : String} {file : GeneratedFile} {w w' : Workspace}
  {answer : Except SinkError Outcome} {l : Location}

theorem stored_of_unasked (h : (files Workspace.host dir .ask).emit file w = (answer, w'))
    (unasked : asks .ask w.tree (Path.join dir file.path) = false) :
    Stored dir (Path.join dir file.path) file.content w.tree answer w'.tree ∧
      Workspace.Silent w w' := by
  have stored := store_stored dir (Path.join dir file.path) file.content w
  rwa [← emit_unasked unasked, h] at stored

/-- Without a question just the files are replaced that come into sight. -/
theorem emit_unasked_iff (rooted : w.tree.IsRooted) (there : w.tree.node? l = some (.file old))
    (h : (files Workspace.host dir .ask).emit file w = (answer, w'))
    (unasked : asks .ask w.tree (Path.join dir file.path) = false) :
    w'.tree.node? l ≠ some (.file old) ↔
      w.tree.Unseen dir (Path.join dir file.path) l ∧ old ≠ file.content := by
  obtain ⟨stored, -⟩ := stored_of_unasked h unasked
  constructor
  · intro changed
    rcases stored.file there with same | ⟨new, -, made, hmade, found⟩
    · exact absurd same changed
    · have absent : w.tree.isPresent (Path.join dir file.path) = false := by
        simpa [asks] using unasked
      exact ⟨⟨absent, made, old, hmade, found⟩, fun e => changed (e ▸ new)⟩
  · rintro ⟨unseen, different⟩ same
    rw [stored.unseen rooted unseen] at same
    exact different (Node.file.inj (Option.some.inj same)).symm

/-- A file that is replaced after a question is the one that the user agreed to. -/
theorem agreed_of_asked (there : w.tree.node? l = some (.file old))
    (h : (files Workspace.host dir .ask).emit file w = (answer, w'))
    (asked : asks .ask w.tree (Path.join dir file.path) = true)
    (changed : w'.tree.node? l ≠ some (.file old)) : Agreed (Path.join dir file.path) l w w' := by
  rw [emit_asked asked] at h
  generalize Path.join dir file.path = path at h asked ⊢
  dsimp only at h
  split at h
  case _ yes =>
    obtain ⟨stored, silent⟩ := store_stored dir path file.content (w.answered (question path))
    rw [h] at stored silent
    refine ⟨silent.questions.trans (Workspace.asked_answered path w).questions, yes, ?_⟩
    rcases stored.file there with same | ⟨-, -, made, hmade, found⟩
    · exact absurd same changed
    · -- The path led somewhere when the user was asked, and making directories does not move it.
      obtain ⟨m, node, status⟩ := isPresent_iff.1 (asks_eq_true_iff.1 asked).2
      have leads := location?_of_status status
      have moved := ((createDirectories_paver dir).paves hmade).grows.location? leads
      rw [location?_of_status found] at moved
      exact moved ▸ leads
  case _ no =>
    obtain ⟨-, rfl⟩ := Prod.mk.inj h
    exact absurd there changed
  case _ cause failure =>
    obtain ⟨-, rfl⟩ := Prod.mk.inj h
    exact absurd there changed

/-- A file is replaced without the user's consent just if it comes into sight too late. -/
theorem emit_silent_iff (rooted : w.tree.IsRooted) (there : w.tree.node? l = some (.file old))
    (h : (files Workspace.host dir .ask).emit file w = (answer, w')) :
    w'.tree.node? l ≠ some (.file old) ∧ ¬ Agreed (Path.join dir file.path) l w w' ↔
      w.tree.Unseen dir (Path.join dir file.path) l ∧ old ≠ file.content := by
  cases ask : asks .ask w.tree (Path.join dir file.path) with
  | false =>
    have disagreed : ¬ Agreed (Path.join dir file.path) l w w' := fun agreed => by
      have := agreed.asked
      rw [(stored_of_unasked h ask).2.questions] at this
      simp at this
    rw [and_iff_left disagreed]
    exact emit_unasked_iff rooted there h ask
  | true =>
    constructor
    · rintro ⟨changed, disagreed⟩
      exact absurd (agreed_of_asked there h ask changed) disagreed
    · rintro ⟨⟨absent, -⟩, -⟩
      rw [(asks_eq_true_iff.1 ask).2] at absent
      cases absent

end Sink

/-! ## Runs -/

/-- A question about the file at a location was answered with a yes. -/
def AgreedTo (before : Workspace) (asked : List String) (tree : FileTree) (l : Location) : Prop :=
  ∃ (i : Nat) (path : String), asked[i]? = some path ∧ before.replies[i]? = some .yes ∧
    tree.location? path = some l

theorem AgreedTo.grows {before : Workspace} {asked : List String} {tree tree' : FileTree}
    {l : Location} (h : AgreedTo before asked tree l) (more : List String)
    (grows : Grows tree tree') : AgreedTo before (asked ++ more) tree' l := by
  obtain ⟨i, path, ha, yes, leads⟩ := h
  refine ⟨i, path, ?_, yes, grows.location? leads⟩
  rw [List.getElem?_append_left (List.getElem?_eq_some_iff.1 ha).1, ha]

/-- Since a run began, the user was asked about some paths, and each file that was there has its
text still, or the user agreed, or one of the paths that were handed to the sink came into sight too
late. -/
structure Heeded (dir : String) (handed : List String) (before w : Workspace)
    (asked : List String) : Prop extends Questioned before w asked where
  heeded : ∀ {l old}, before.tree.node? l = some (.file old) →
    w.tree.node? l = some (.file old) ∨ AgreedTo before asked w.tree l ∨
      ∃ path ∈ handed, Surfaced dir path before.tree w.tree l

namespace Heeded

variable {dir path content : String} {handed asked : List String} {before w w' : Workspace}

theorem refl (dir : String) (handed : List String) (w : Workspace) :
    Heeded dir handed w w [] :=
  { Questioned.refl w with heeded := .inl }

/-- One more path is handed to the sink, and the tree stays as it is. -/
theorem keep (h : Heeded dir handed before w asked) (path : String) {more : List String}
    (questioned : Questioned before w' (asked ++ more)) (tree : w'.tree = w.tree) :
    Heeded dir (handed ++ [path]) before w' (asked ++ more) where
  toQuestioned := questioned
  heeded there := by
    rw [tree]
    rcases h.heeded there with same | agreed | ⟨p, hp, surfaced⟩
    · exact .inl same
    · exact .inr (.inl (agreed.grows more (.refl _)))
    · exact .inr (.inr ⟨p, List.mem_append_left _ hp, surfaced⟩)

/-- One more path is handed to the sink and its file is stored, which the user agreed to unless the
path led nowhere. -/
theorem store (rooted : before.tree.IsRooted) (h : Heeded dir handed before w asked)
    {answer : Except SinkError Outcome} {more : List String}
    (questioned : Questioned before w' (asked ++ more))
    (stored : Stored dir path content w.tree answer w'.tree)
    (free : w.tree.isPresent path = false ∨
      more = [path] ∧ before.replies[asked.length]? = some .yes) :
    Heeded dir (handed ++ [path]) before w' (asked ++ more) where
  toQuestioned := questioned
  heeded {l old} there := by
    rcases h.heeded there with same | agreed | ⟨p, hp, surfaced⟩
    · rcases stored.file same with same | ⟨-, leads, made, hmade, found⟩
      · exact .inl same
      rcases free with absent | ⟨rfl, yes⟩
      · refine .inr (.inr ⟨path, by simp, ?_⟩)
        exact surfaced_of_unseen rooted h.grows there absent hmade found leads
      · exact .inr (.inl ⟨asked.length, path, by simp, yes, leads⟩)
    · exact .inr (.inl (agreed.grows more stored.grows))
    · exact .inr (.inr ⟨p, List.mem_append_left _ hp, surfaced.grows stored.grows⟩)

/-- What one request keeps. -/
theorem emit (rooted : before.tree.IsRooted) (h : Heeded dir handed before w asked)
    {file : GeneratedFile} {answer : Except SinkError Outcome}
    (emitted : (Sink.files Workspace.host dir .ask).emit file w = (answer, w')) :
    ∃ asked', Heeded dir (handed ++ [Path.join dir file.path]) before w' asked' := by
  have cases := emit_emitted dir .ask file w
  rw [emitted] at cases
  cases cases with
  | unanswered _ tree question => exact ⟨_, h.keep _ (h.ask question (tree ▸ .refl _)) tree⟩
  | kept _ tree question => exact ⟨_, h.keep _ (h.ask question (tree ▸ .refl _)) tree⟩
  | free absent stored silent =>
    have questioned := h.toQuestioned.silent silent stored.grows
    rw [← List.append_nil asked] at questioned
    exact ⟨_, h.store rooted questioned stored (.inl (absent.resolve_left (by simp)))⟩
  | allowed _ yes stored question =>
    rw [h.replies, List.head?_drop] at yes
    exact ⟨_, h.store rooted (h.ask question stored.grows) stored (.inr ⟨rfl, yes⟩)⟩

/-- A step that neither asks nor changes a file. -/
theorem idle (h : Heeded dir handed before w asked) (silent : Workspace.Silent w w')
    (tree : w'.tree = w.tree) : Heeded dir handed before w' asked where
  toQuestioned := h.toQuestioned.silent silent (tree ▸ .refl _)
  heeded there := tree ▸ h.heeded there

theorem mono {more : List String} (h : Heeded dir handed before w asked)
    (sub : handed ⊆ more) : Heeded dir more before w asked :=
  { h with
    heeded := fun there => (h.heeded there).imp_right fun other =>
      other.imp_right fun ⟨p, hp, surfaced⟩ => ⟨p, sub hp, surfaced⟩ }

end Heeded

theorem preserved_heeded (dir : String) {before : Workspace} (rooted : before.tree.IsRooted) :
    Command.Preserved Workspace.host (Sink.files Workspace.host dir .ask)
      fun done _ w => ∃ asked, Heeded dir (done.map (·.pathIn dir)) before w asked where
  log record h := by
    obtain ⟨asked, heeded⟩ := h
    exact ⟨asked, heeded.idle ⟨rfl, Workspace.questions_logged _ _⟩ rfl⟩
  note note h := by
    obtain ⟨asked, heeded⟩ := h
    exact ⟨asked, heeded.idle ⟨rfl, Workspace.questions_noted _ _⟩ rfl⟩
  duplicate h _ := by
    obtain ⟨asked, heeded⟩ := h
    exact ⟨asked, heeded.mono (by simp)⟩
  taken h _ emitted := by
    obtain ⟨asked, heeded⟩ := h
    simpa [Table.pathIn] using heeded.emit rooted emitted
  refused h _ emitted := by
    obtain ⟨asked, heeded⟩ := h
    simpa [Table.pathIn] using heeded.emit rooted emitted

namespace Command

theorem noteSupport_silent (outcome : Outcome) (w : Workspace) :
    Workspace.Silent w (noteSupport Workspace.host outcome w).2 := by
  cases outcome with
  | printed => exact ⟨rfl, rfl⟩
  | written path => exact ⟨rfl, Workspace.questions_noted w _⟩
  | skipped path => exact ⟨rfl, Workspace.questions_noted w _⟩

theorem emitSupport_heeded {dir : String} {before : Workspace} (rooted : before.tree.IsRooted)
    (files : List GeneratedFile) :
    ∀ {handed asked : List String} {w : Workspace}, Heeded dir handed before w asked →
      ∃ asked', Heeded dir (handed ++ files.map fun file => Path.join dir file.path) before
        (emitSupport Workspace.host (Sink.files Workspace.host dir .ask) files w).2 asked' := by
  induction files with
  | nil =>
    intro handed asked w h
    exact ⟨asked, h.mono (by simp)⟩
  | cons file rest ih =>
    intro handed asked w h
    rw [emitSupport_cons, List.map_cons, List.append_cons]
    split
    case _ e w₁ emitted =>
      obtain ⟨asked', heeded⟩ := h.emit rooted emitted
      exact ⟨asked', heeded.mono (List.subset_append_left _ _)⟩
    case _ outcome w₁ emitted =>
      obtain ⟨asked', heeded⟩ := h.emit rooted emitted
      exact ih (heeded.idle (noteSupport_silent outcome w₁) (noteSupport_tree outcome w₁))

theorem generate_heeded {dir : String} {w : Workspace} (rooted : w.tree.IsRooted)
    (fixture : Fixture) (keyspace : String) (requested : List String) :
    ∃ asked, Heeded dir
      (((fixture.tables keyspace requested).toOption.getD []).map (·.pathIn dir)) w
      (generate Workspace.host (Sink.files Workspace.host dir .ask) fixture keyspace requested
        w).2 asked := by
  obtain ⟨tree, silent⟩ := loadTables_quiet fixture keyspace requested w
  cases loaded : fixture.tables keyspace requested with
  | error e =>
    have refused : (generate Workspace.host (Sink.files Workspace.host dir .ask) fixture keyspace
        requested w).2 = w := by
      unfold generate loadTables
      rw [loaded]
      rfl
    rw [refused]
    exact ⟨[], .refl dir _ w⟩
  | ok tables =>
    obtain ⟨w₀, read, run⟩ :=
      generate_ok Workspace.host (Sink.files Workspace.host dir .ask) loaded w
    rw [read] at tree silent
    have heeded := (preserved_heeded dir rooted).generateModels tables (s := w₀)
      ⟨[], (Heeded.refl dir [] w).idle silent tree⟩
    rw [run]
    exact heeded

/-- Under a policy that asks, the user is passed over just if a file comes into sight when the
directory is made, which takes a path that climbs out of a directory that was missing. Neither
generating models nor setting up a directory changes any other file that was there, unless the user
agreed. -/
theorem overwrites_unseen (dir : String) (w : Workspace) (rooted : w.tree.IsRooted) :
    (∀ file l old, w.tree.node? l = some (.file old) →
      let path := Path.join dir file.path
      let w' := ((Sink.files Workspace.host dir .ask).emit file w).2
      (w'.tree.node? l ≠ some (.file old) ∧ ¬ Agreed path l w w' ↔
        w.tree.Unseen dir path l ∧ old ≠ file.content) ∧
      (w.tree.Unseen dir path l → ¬ w.tree.IsReady dir ∧ ".." ∈ Path.names path.toList)) ∧
    (∀ fixture keyspace requested, ∃ asked, Heeded dir
      (((fixture.tables keyspace requested).toOption.getD []).map (·.pathIn dir)) w
      (generate Workspace.host (Sink.files Workspace.host dir .ask) fixture keyspace requested
        w).2 asked) ∧
    ∃ asked, Heeded dir (SupportFile.all.map fun file => Path.join dir file.path) w
      (init Workspace.host (Sink.files Workspace.host dir .ask) w).2 asked := by
  refine ⟨fun file l old there => ⟨?_, ?_⟩, generate_heeded rooted, ?_⟩
  · generalize emitted : (Sink.files Workspace.host dir .ask).emit file w = result
    obtain ⟨answer, w'⟩ := result
    exact Sink.emit_silent_iff rooted there emitted
  · rintro ⟨absent, made, text, hmade, found⟩
    have surfaced := surfaced_of_unseen rooted (.refl _) there absent hmade found
      (location?_of_status found)
    exact ⟨surfaced.missing, surfaced.climbs⟩
  · have := emitSupport_heeded rooted SupportFile.all (Heeded.refl dir [] w)
    rwa [List.nil_append] at this

/-- The note comes into sight when the directory for drafts is made. -/
theorem overwrites_unseen_note :
    project.tree.IsRooted ∧
      project.tree.node? ["note.ts", "work"] = some (.file "kept") ∧
      project.tree.Unseen "drafts" "drafts/../note.ts" ["note.ts", "work"] ∧
      ¬ project.tree.IsReady "drafts" ∧
      let w' := ((Sink.files Workspace.host "drafts" .ask).emit
        ⟨"../note.ts", "new", .typeScript⟩ project).2
      w'.tree.node? ["note.ts", "work"] ≠ some (.file "kept") ∧
        ¬ Agreed "drafts/../note.ts" ["note.ts", "work"] project w' := by
  have rooted : project.tree.IsRooted := isRooted_of_nodes (by decide)
  have there : project.tree.node? ["note.ts", "work"] = some (.file "kept") := by decide
  have made : (project.tree.createDirectories "drafts").1 = .ok () := by decide +kernel
  have unseen : project.tree.Unseen "drafts" "drafts/../note.ts" ["note.ts", "work"] :=
    ⟨by decide +kernel, (project.tree.createDirectories "drafts").2, "kept", Prod.ext made rfl,
      by decide +kernel⟩
  have join : Path.join "drafts" "../note.ts" = "drafts/../note.ts" := by decide +kernel
  obtain ⟨silent, climbs⟩ := (overwrites_unseen "drafts" project rooted).1
    ⟨"../note.ts", "new", .typeScript⟩ _ _ there
  dsimp only at silent climbs
  rw [join] at silent climbs
  exact ⟨rooted, there, unseen, (climbs unseen).1, silent.2 ⟨unseen, by decide⟩⟩

/-- Neither the note nor a model that is reached through the missing directory is asked about. -/
theorem overwrites_unasked :
    let emitted := ((Sink.files Workspace.host "drafts" .ask).emit
      ⟨"../note.ts", "new", .typeScript⟩ project).2
    let generated := (generate Workspace.host (Sink.files Workspace.host "drafts/../models" .ask)
      (Fixture.ofRows [singleRow "users"]) "chat" [] project).2
    project.tree.readFile "note.ts" = .ok "kept" ∧
      emitted.tree.readFile "note.ts" = .ok "new" ∧ emitted.questions = [] ∧
      project.tree.readFile "models/user.ts" = .ok "kept" ∧
      generated.tree.readFile "models/user.ts" ≠ .ok "kept" ∧ generated.questions = [] := by
  decide +kernel

end Command

end WideColumn
