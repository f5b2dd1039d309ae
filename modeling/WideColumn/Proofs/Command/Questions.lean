import WideColumn.Proofs.Command.Repetition
import WideColumn.Proofs.Sink.Emission

/-!
# Asking before models are replaced

Whether the user is asked about a model is decided before its directory is made. If the directory is
there, each file that a model takes the place of is in sight, and the user is asked about it. If it
is missing, the path of the first model leads nowhere, so nobody is asked, although making the
directory may bring a file into sight. After that it is settled whether the directory is there, and
every other model is asked about as it should be.

Main definitions: `Questioned`, `GotYes`, `Overlooked`, `Consented`.
Main result: `preserved_consented`.
-/

namespace WideColumn

open FileTree

/-! ## Paths in a directory -/

/-- A path in a directory leads somewhere only if the directory is there. -/
theorem FileTree.isReady_of_isPresent_join {tree : FileTree} {dir name : String}
    (entry : Path.IsEntry name) (present : tree.isPresent (Path.join dir name) = true) :
    tree.IsReady dir := by
  obtain ⟨l, node, status⟩ := isPresent_iff.1 present
  obtain ⟨route, hr, -⟩ := status_ok_iff.1 status
  obtain ⟨d, follow, directory, -⟩ := status_join entry status
  by_cases he : dir = ""
  · exact .inl he
  · have part := (Path.prefix_join dir entry.isName).sublist
    exact .inr (isDirectory_iff.2 ⟨_, d, Path.route?_of_sublist hr part he, follow, directory⟩)

/-- A path in a directory that was missing, which leads to a file that was there before the tree
grew, climbs on its way to the directory. -/
theorem FileTree.climbs_of_not_isReady {before after : FileTree} {dir name old text : String}
    {l : Location} (rooted : before.IsRooted) (grows : Grows before after)
    (entry : Path.IsEntry name) (missing : ¬ before.IsReady dir)
    (found : after.status (Path.join dir name) = .ok (l, .file text))
    (there : before.node? l = some (.file old)) : ".." ∈ Path.names dir.toList := by
  by_contra noClimb
  have noClimb : ".." ∉ Path.names (Path.join dir name).toList := by
    rw [Path.names_join dir entry.isName, List.mem_append, List.mem_singleton]
    exact not_or.2 ⟨noClimb, entry.ne_dots.symm⟩
  have seen := status_of_noClimb rooted grows found there noClimb
  exact missing (isReady_of_isPresent_join entry (isPresent_iff.2 ⟨l, _, seen⟩))

/-! ## Paths of models -/

theorem Table.pathIn_injective {dir : String} {a b : Table} (ha : Path.IsEntry a.file.path)
    (hb : Path.IsEntry b.file.path) (h : a.pathIn dir = b.pathIn dir) :
    a.file.path = b.file.path := by
  have ea := Path.names_join dir ha.isName
  have eb := Path.names_join dir hb.isName
  rw [show Path.join dir a.file.path = Path.join dir b.file.path from h, eb] at ea
  exact (List.cons.inj (List.append_cancel_left ea)).1.symm

/-- A table without a rival has a path of its own. -/
theorem AllWords.pathIn_ne {done : List Table} {table : Table} (words : AllWords (done ++ [table]))
    (free : table.rival? done = none) (dir : String) {t : Table} (ht : t ∈ done) :
    t.pathIn dir ≠ table.pathIn dir := fun same =>
  Table.rival?_eq_none.1 free t ht
    (Table.pathIn_injective (words.entry_of_mem (List.mem_append_left _ ht)) words.entry same)

/-! ## Storing -/

namespace Stored

variable {dir path name content : String} {tree tree' : FileTree}

/-- Storing a file settles whether its directory is there. -/
theorem settles {answer : Except SinkError Outcome}
    (h : Stored dir path content tree answer tree') : tree'.IsStuck dir ∨ tree'.IsReady dir := by
  have paver := createDirectories_paver dir
  cases h with
  | noDirectory made => exact .inl (paver.stuck made)
  | notWritten made _ => exact .inr (paver.ok made)
  | written made wrote =>
    obtain ⟨l, root, free, rfl, -⟩ := writeFile_ok wrote
    exact .inr ((Grows.set_file root free content).isReady (paver.ok made))

/-- A file that was stored at a path that led nowhere is no old one if the directory was there. -/
theorem isNew {outcome : Outcome} (entry : Path.IsEntry name)
    (h : Stored dir (Path.join dir name) content tree (.ok outcome) tree')
    (ready : tree.IsReady dir) (absent : tree.isPresent (Path.join dir name) = false)
    {l : Location} (leads : tree'.location? (Path.join dir name) = some l) (old : String) :
    tree.node? l ≠ some (.file old) := by
  intro there
  cases h with
  | written made wrote =>
    rw [(createDirectories_paver dir).done ready] at made
    obtain ⟨-, rfl⟩ := Prod.mk.inj made
    obtain ⟨d, admits, rfl⟩ := (writeFile_join entry).1 wrote
    have holds := admits.write content
    have found := holds.admits.status entry holds.content
    obtain rfl := Option.some.inj ((location?_of_status found).symm.trans leads)
    rw [isPresent_iff.2 ⟨_, _, admits.status entry there⟩] at absent
    cases absent

end Stored

/-! ## Questions -/

/-- The user was asked about some paths since a run began, each question with a reply of its own. -/
structure Questioned (before w : Workspace) (asked : List String) : Prop where
  questions : w.questions = before.questions ++ asked.map Sink.question
  replies : w.replies = before.replies.drop asked.length
  grows : Grows before.tree w.tree

namespace Questioned

variable {before w w' : Workspace} {asked : List String} {path : String}

theorem refl (w : Workspace) : Questioned w w [] where
  questions := by simp
  replies := rfl
  grows := .refl w.tree

theorem silent (h : Questioned before w asked) (s : Workspace.Silent w w')
    (grows : Grows w.tree w'.tree) : Questioned before w' asked where
  questions := s.questions.trans h.questions
  replies := s.replies.trans h.replies
  grows := h.grows.trans grows

theorem ask (h : Questioned before w asked) (a : Workspace.Asked path w w')
    (grows : Grows w.tree w'.tree) : Questioned before w' (asked ++ [path]) where
  questions := by rw [a.questions, h.questions]; simp
  replies := by rw [a.replies, h.replies, List.tail_drop]; simp
  grows := h.grows.trans grows

end Questioned

/-- A question about the path was answered with a yes. -/
def GotYes (replies : List Reply) (asked : List String) (path : String) : Prop :=
  ∃ i : Nat, asked[i]? = some path ∧ replies[i]? = some .yes

theorem gotYes_append {replies : List Reply} {asked more : List String} {path : String}
    (other : path ∉ more) : GotYes replies (asked ++ more) path ↔ GotYes replies asked path := by
  constructor
  · rintro ⟨i, ha, yes⟩
    rw [List.getElem?_append] at ha
    split at ha
    · exact ⟨i, ha, yes⟩
    · exact absurd (List.mem_of_getElem? ha) other
  · rintro ⟨i, ha, yes⟩
    exact ⟨i, by rw [List.getElem?_append_left (List.getElem?_eq_some_iff.1 ha).1, ha], yes⟩

/-! ## Consent -/

/-- The path is that of the first model of a run, and its directory is missing when the run looks
for it. -/
structure Overlooked (dir : String) (tables : List Table) (before : FileTree) (path : String) :
    Prop where
  missing : ¬ before.IsReady dir
  first : tables.head?.map (·.pathIn dir) = some path

theorem overlooked_append {dir path : String} {done more : List Table} {before : FileTree}
    (hne : done ≠ []) :
    Overlooked dir (done ++ more) before path ↔ Overlooked dir done before path := by
  have same : (done ++ more).head? = done.head? := by
    cases done with
    | nil => exact absurd rfl hne
    | cons table done => rfl
  constructor <;> rintro ⟨missing, first⟩
  · exact ⟨missing, same ▸ first⟩
  · exact ⟨missing, same.symm ▸ first⟩

/-- For each path that was written and leads to a file that was there before, the user said yes,
unless the path was overlooked. -/
structure Consented (dir : String) (before : Workspace) (done : List Table)
    (written : List String) (w : Workspace) (asked : List String) : Prop
    extends Questioned before w asked where
  initial : done = [] → w.tree = before.tree
  settled : done ≠ [] → w.tree.IsStuck dir ∨ w.tree.IsReady dir
  askedDone : ∀ path ∈ asked, ∃ t ∈ done, path = t.pathIn dir
  writtenDone : ∀ path ∈ written, ∃ t ∈ done, path = t.pathIn dir
  consent : ∀ path ∈ written, ∃ l, w.tree.location? path = some l ∧
    ∀ old, before.tree.node? l = some (.file old) →
      (GotYes before.replies asked path ↔ ¬ Overlooked dir done before.tree path)

namespace Consented

variable {dir : String} {before w w' : Workspace} {done : List Table} {table : Table}
  {written asked more : List String}

theorem refl (dir : String) (w : Workspace) : Consented dir w [] [] w [] :=
  { Questioned.refl w with
    initial := fun _ => rfl
    settled := fun hne => absurd rfl hne
    askedDone := by simp
    writtenDone := by simp
    consent := by simp }

/-- A step that neither asks nor changes a file. -/
theorem idle (h : Consented dir before done written w asked) (silent : Workspace.Silent w w')
    (tree : w'.tree = w.tree) : Consented dir before done written w' asked where
  toQuestioned := h.toQuestioned.silent silent (tree ▸ .refl _)
  initial := tree ▸ h.initial
  settled := tree ▸ h.settled
  askedDone := h.askedDone
  writtenDone := h.writtenDone
  consent := tree ▸ h.consent

/-- One more table is done, and what was asked in between is about its path. -/
theorem step (h : Consented dir before done written w asked)
    (about : ∀ path ∈ more, path = table.pathIn dir)
    (other : ∀ t ∈ done, t.pathIn dir ∉ more)
    (questioned : Questioned before w' (asked ++ more)) (grows : Grows w.tree w'.tree)
    (settled : w'.tree.IsStuck dir ∨ w'.tree.IsReady dir) :
    Consented dir before (done ++ [table]) written w' (asked ++ more) where
  toQuestioned := questioned
  initial e := by simp at e
  settled _ := settled
  askedDone path hp := by
    rcases List.mem_append.1 hp with hp | hp
    · obtain ⟨t, ht, e⟩ := h.askedDone path hp
      exact ⟨t, List.mem_append_left _ ht, e⟩
    · exact ⟨table, by simp, about path hp⟩
  writtenDone path hp := by
    obtain ⟨t, ht, e⟩ := h.writtenDone path hp
    exact ⟨t, List.mem_append_left _ ht, e⟩
  consent path hp := by
    obtain ⟨t, ht, rfl⟩ := h.writtenDone path hp
    obtain ⟨l, leads, consent⟩ := h.consent _ hp
    refine ⟨l, grows.location? leads, fun old there => ?_⟩
    rw [gotYes_append (other t ht), overlooked_append (List.ne_nil_of_mem ht)]
    exact consent old there

/-- A table with a rival is done without a question. -/
theorem duplicate (h : Consented dir before done written w asked) {rival : Table}
    (hr : table.rival? done = some rival) :
    Consented dir before (done ++ [table]) written w asked := by
  have hne : done ≠ [] := fun e => by
    subst e
    cases hr
  have questioned := h.toQuestioned
  rw [← List.append_nil asked] at questioned ⊢
  exact h.step (by simp) (by simp) questioned (.refl w.tree) (h.settled hne)

/-- The user is asked about the model of a table, so the directory is there. -/
theorem ask (h : Consented dir before done written w asked) (words : AllWords (done ++ [table]))
    (free : table.rival? done = none) (present : w.tree.isPresent (table.pathIn dir) = true)
    (a : Workspace.Asked (table.pathIn dir) w w') (grows : Grows w.tree w'.tree) :
    Consented dir before (done ++ [table]) written w' (asked ++ [table.pathIn dir]) := by
  have ready := isReady_of_isPresent_join words.entry present
  refine h.step (by simp) (fun t ht hm => ?_) (h.toQuestioned.ask a grows) grows
    (.inr (grows.isReady ready))
  exact words.pathIn_ne free dir ht (List.mem_singleton.1 hm)

/-- The model of a table is stored without a question. -/
theorem store (h : Consented dir before done written w asked) {answer : Except SinkError Outcome}
    {content : String} (silent : Workspace.Silent w w')
    (stored : Stored dir (table.pathIn dir) content w.tree answer w'.tree) :
    Consented dir before (done ++ [table]) written w' asked := by
  have questioned := h.toQuestioned.silent silent stored.grows
  rw [← List.append_nil asked] at questioned ⊢
  exact h.step (by simp) (by simp) questioned stored.grows stored.settles

/-- One more path of a table that is done is written. -/
theorem write (h : Consented dir before done written w asked) (ht : table ∈ done) {l : Location}
    (leads : w.tree.location? (table.pathIn dir) = some l)
    (consent : ∀ old, before.tree.node? l = some (.file old) →
      (GotYes before.replies asked (table.pathIn dir) ↔
        ¬ Overlooked dir done before.tree (table.pathIn dir))) :
    Consented dir before done (written ++ [table.pathIn dir]) w asked :=
  { h with
    writtenDone := fun path hp => by
      rcases List.mem_append.1 hp with hp | hp
      · exact h.writtenDone path hp
      · exact ⟨table, ht, List.mem_singleton.1 hp⟩
    consent := fun path hp => by
      rcases List.mem_append.1 hp with hp | hp
      · exact h.consent path hp
      · obtain rfl := List.mem_singleton.1 hp
        exact ⟨l, leads, consent⟩ }

/-- The model of a table that is in sight is not overlooked: if it is the first, then its directory
was there when the run began. -/
theorem not_overlooked (h : Consented dir before done written w asked)
    (words : AllWords (done ++ [table])) (free : table.rival? done = none)
    (present : w.tree.isPresent (table.pathIn dir) = true) :
    ¬ Overlooked dir (done ++ [table]) before.tree (table.pathIn dir) := by
  rintro ⟨missing, first⟩
  cases done with
  | nil =>
    rw [h.initial rfl] at present
    exact missing (isReady_of_isPresent_join words.entry present)
  | cons t done => exact words.pathIn_ne free dir List.mem_cons_self (Option.some.inj first)

/-- The model of a table that is stored without a question takes the place of a file only if it is
overlooked. -/
theorem overlooked (h : Consented dir before done written w asked)
    (entry : Path.IsEntry table.file.path) {content : String} {outcome : Outcome}
    {tree : FileTree} (stored : Stored dir (table.pathIn dir) content w.tree (.ok outcome) tree)
    (absent : w.tree.isPresent (table.pathIn dir) = false) {l : Location}
    (leads : tree.location? (table.pathIn dir) = some l) {old : String}
    (there : before.tree.node? l = some (.file old)) :
    Overlooked dir (done ++ [table]) before.tree (table.pathIn dir) := by
  obtain ⟨kept, still⟩ := h.grows.file there
  have missing : ¬ w.tree.IsReady dir := fun ready => stored.isNew entry ready absent leads _ still
  have first : done = [] := by
    by_contra hne
    obtain ⟨e, stuck⟩ := (h.settled hne).resolve_right missing
    cases stored with
    | written made _ =>
      rw [stuck] at made
      cases made
  subst first
  rw [h.initial rfl] at missing
  exact ⟨missing, rfl⟩

/-- Nobody was asked about the model of a table without a rival so far. -/
theorem not_asked (h : Consented dir before done written w asked)
    (words : AllWords (done ++ [table])) (free : table.rival? done = none) :
    ¬ GotYes before.replies asked (table.pathIn dir) := by
  rintro ⟨i, ha, -⟩
  obtain ⟨t, ht, e⟩ := h.askedDone _ (List.mem_of_getElem? ha)
  exact words.pathIn_ne free dir ht e.symm

theorem gotYes_iff (h : Consented dir before done written w asked) {path old : String}
    (hp : path ∈ written) {l : Location} (leads : w.tree.location? path = some l)
    (there : before.tree.node? l = some (.file old)) :
    GotYes before.replies asked path ↔ ¬ Overlooked dir done before.tree path := by
  obtain ⟨l', leads', consent⟩ := h.consent path hp
  obtain rfl := Option.some.inj (leads'.symm.trans leads)
  exact consent old there

/-- If a model is at the place of a file that was there, and its directory was missing, then the
directory is reached by climbing. -/
theorem climbs (h : Consented dir before done written w asked) (rooted : before.tree.IsRooted)
    (entry : Path.IsEntry table.file.path) (missing : ¬ before.tree.IsReady dir) {l : Location}
    {old : String} (leads : w.tree.location? (table.pathIn dir) = some l)
    (there : before.tree.node? l = some (.file old)) : ".." ∈ Path.names dir.toList := by
  obtain ⟨node, found⟩ := status_of_location? leads
  obtain ⟨text, still⟩ := h.grows.file there
  obtain ⟨-, -, -, hnode, -⟩ := status_ok_iff.1 found
  obtain rfl := Option.some.inj (hnode.symm.trans still)
  exact climbs_of_not_isReady rooted h.grows entry missing found there

end Consented

theorem preserved_consented (dir : String) (before : Workspace) :
    Command.Preserved Workspace.host (Sink.files Workspace.host dir .ask)
      fun done report w => AllWords done →
        ∃ asked, Consented dir before done report.written w asked where
  log record h words := by
    obtain ⟨asked, consented⟩ := h words
    exact ⟨asked, consented.idle ⟨rfl, Workspace.questions_logged _ _⟩ rfl⟩
  note note h words := by
    obtain ⟨asked, consented⟩ := h words
    exact ⟨asked, consented.idle ⟨rfl, Workspace.questions_noted _ _⟩ rfl⟩
  duplicate h rival words := by
    obtain ⟨asked, consented⟩ := h words.init
    exact ⟨asked, consented.duplicate rival⟩
  taken {done report w w' table outcome} h free emitted words := by
    obtain ⟨asked, consented⟩ := h words.init
    have cases := emit_emitted dir .ask table.file w
    rw [emitted] at cases
    cases cases with
    | kept present tree question =>
      exact ⟨_, consented.ask words free present.2 question (tree ▸ .refl _)⟩
    | free absent stored silent =>
      -- The path led nowhere, so a file that is there now came into sight with the directory.
      obtain rfl := stored.outcome
      have absent := absent.resolve_left (by simp)
      obtain ⟨l, found, -⟩ := stored.leads
      have leads := location?_of_status found
      refine ⟨asked, (consented.store silent stored).write (by simp) leads fun old there => ?_⟩
      have overlooked := consented.overlooked words.entry stored absent leads there
      exact iff_of_false (consented.not_asked words free) (not_not_intro overlooked)
    | allowed present yes stored question =>
      obtain rfl := stored.outcome
      obtain ⟨l, found, -⟩ := stored.leads
      refine ⟨_, (consented.ask words free present.2 question stored.grows).write (by simp)
        (location?_of_status found) fun old _ => ?_⟩
      rw [consented.replies, List.head?_drop] at yes
      exact iff_of_true ⟨asked.length, by simp, yes⟩
        (consented.not_overlooked words free present.2)
  refused {done report w w' table cause} h free emitted words := by
    obtain ⟨asked, consented⟩ := h words.init
    have cases := emit_emitted dir .ask table.file w
    rw [emitted] at cases
    cases cases with
    | unanswered present tree question =>
      exact ⟨_, consented.ask words free present.2 question (tree ▸ .refl _)⟩
    | free _ stored silent => exact ⟨_, consented.store silent stored⟩
    | allowed present _ stored question =>
      exact ⟨_, consented.ask words free present.2 question stored.grows⟩

end WideColumn
