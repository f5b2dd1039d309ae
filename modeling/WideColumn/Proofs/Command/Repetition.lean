import WideColumn.Proofs.Command.Accounting
import WideColumn.Proofs.Command.Written

/-!
# Running again

A run that never asks leaves a tree at rest: whether the directory can be made and which models the
system takes is settled then, and every model that it takes is written. So the same run finds
nothing to change.
-/

namespace WideColumn

namespace FileTree

variable {tree tree' : FileTree} {dir : String}

/-! ## What a tree takes -/

instance (tree : FileTree) (dir : String) : Decidable (tree.IsReady dir) :=
  inferInstanceAs (Decidable (_ ∨ _))

/-- The directory is there, and the file can be written in it. -/
def takes (tree : FileTree) (dir : String) (file : GeneratedFile) : Bool :=
  decide (tree.IsReady dir) && (tree.writeFile (Path.join dir file.path) file.content).isOk

theorem takes_iff {file : GeneratedFile} (h : Path.IsEntry file.path) :
    tree.takes dir file = true ↔ tree.IsReady dir ∧ ∃ d, tree.Admits dir file.path d := by
  unfold takes
  rw [Bool.and_eq_true, decide_eq_true_eq]
  refine and_congr_right fun _ => ?_
  cases hw : tree.writeFile (Path.join dir file.path) file.content with
  | error e =>
    simp only [Except.isOk, Except.toBool, Bool.false_eq_true, false_iff]
    rintro ⟨d, admits⟩
    rw [admits.writeFile h file.content] at hw
    cases hw
  | ok tree' =>
    obtain ⟨d, admits, -⟩ := (writeFile_join h).1 hw
    simpa [Except.isOk, Except.toBool] using ⟨d, admits⟩

theorem Admits.unique {name other : String} {d d' : Location} (h : tree.Admits dir name d)
    (h' : tree.Admits dir other d') : d' = d :=
  Except.ok.inj (h'.follow.symm.trans h.follow)

/-- Writing a file that the tree takes does not change which files it takes. -/
theorem takes_set {name content : String} {d : Location} (admits : tree.Admits dir name d)
    (ready : tree.IsReady dir) {file : GeneratedFile} (h : Path.IsEntry file.path) :
    (tree.set (name :: d) (.file content)).takes dir file = tree.takes dir file := by
  have grows := admits.grows content
  rw [Bool.eq_iff_iff, takes_iff h, takes_iff h]
  constructor
  · rintro ⟨-, d', admits'⟩
    have : d' = d := Except.ok.inj (admits'.follow.symm.trans (grows.follow admits.follow))
    subst this
    exact ⟨ready, d',
      { route := admits'.route
        follow := admits.follow
        directory := admits.directory
        short := admits'.short
        free := fun hd => admits'.free (grows.directory hd) }⟩
  · rintro ⟨-, d', admits'⟩
    obtain rfl := admits.unique admits'
    refine ⟨grows.isReady ready, d',
      { route := admits'.route
        follow := grows.follow admits.follow
        directory := grows.directory admits.directory
        short := admits'.short
        free := ?_ }⟩
    rw [node?_set tree _ _ (by simp)]
    split
    · simp
    · exact admits'.free

/-! ## Trees with the same nodes -/

/-- The trees differ in the order of their changes at most. -/
structure SameNodes (tree tree' : FileTree) : Prop where
  workingDirectory : tree'.workingDirectory = tree.workingDirectory
  nodes : ∀ l, tree'.node? l = tree.node? l

namespace SameNodes

theorem refl (tree : FileTree) : SameNodes tree tree := ⟨rfl, fun _ => rfl⟩

theorem symm (h : SameNodes tree tree') : SameNodes tree' tree :=
  ⟨h.workingDirectory.symm, fun l => (h.nodes l).symm⟩

theorem grows (h : SameNodes tree tree') : Grows tree tree' where
  workingDirectory := h.workingDirectory
  directory {l} hd := by rw [h.nodes l, hd]
  file {l content} hf := ⟨content, by rw [h.nodes l, hf]⟩

theorem admits (h : SameNodes tree tree') {name : String} {d : Location}
    (ha : tree.Admits dir name d) : tree'.Admits dir name d where
  route := ha.route
  follow := h.grows.follow ha.follow
  directory := h.grows.directory ha.directory
  short := ha.short
  free := by rw [h.nodes]; exact ha.free

/-- Writing what a file holds already changes no node. -/
theorem set (h : SameNodes tree tree') {name content : String} {d : Location}
    (hc : tree.node? (name :: d) = some (.file content)) :
    SameNodes tree (tree'.set (name :: d) (.file content)) where
  workingDirectory := h.workingDirectory
  nodes l := by
    rw [node?_set tree' l _ (by simp)]
    by_cases hl : l = name :: d
    · rw [if_pos hl, hl, hc]
    · rw [if_neg hl, h.nodes l]

end SameNodes

/-- The directory cannot be made, and trying so changes nothing. -/
def IsStuck (tree : FileTree) (dir : String) : Prop :=
  ∃ e, tree.createDirectories dir = (.error e, tree)

theorem IsStuck.not_ready (h : tree.IsStuck dir) : ¬ tree.IsReady dir := by
  intro ready
  obtain ⟨e, he⟩ := h
  rw [(createDirectories_paver dir).done ready] at he
  cases he

theorem IsStuck.takes (h : tree.IsStuck dir) (file : GeneratedFile) :
    tree.takes dir file = false := by
  simp [FileTree.takes, h.not_ready]

end FileTree

open FileTree

/-! ## The paths that are written -/

section Paths

variable {tree : FileTree} {dir : String} {done : List Table} {table : Table}

/-- A table whose file the tree does not take adds no path. -/
theorem paths_refused (free : table.rival? done = none)
    (no : tree.takes dir table.file = false) :
    ((Tables.firsts (done ++ [table])).filter (tree.takes dir ·.file)).map (·.pathIn dir) =
      ((Tables.firsts done).filter (tree.takes dir ·.file)).map (·.pathIn dir) := by
  rw [Tables.firsts_concat_free free, List.filter_append, List.filter_cons_of_neg (by simp [no]),
    List.filter_nil, List.append_nil]

theorem paths_taken (free : table.rival? done = none)
    (yes : tree.takes dir table.file = true) :
    ((Tables.firsts (done ++ [table])).filter (tree.takes dir ·.file)).map (·.pathIn dir) =
      ((Tables.firsts done).filter (tree.takes dir ·.file)).map (·.pathIn dir) ++
        [table.pathIn dir] := by
  rw [Tables.firsts_concat_free free, List.filter_append, List.filter_cons_of_pos (by exact yes),
    List.map_append]
  simp

end Paths

/-! ## The first run -/

/-- It is settled what the tree takes, and the models of the tables that are done and that it takes
are written. -/
structure Settled (dir : String) (done : List Table) (report : Report) (tree : FileTree) :
    Prop where
  rest : done = [] ∨ tree.IsStuck dir ∨ tree.IsReady dir
  written : report.written =
    ((Tables.firsts done).filter (tree.takes dir ·.file)).map (·.pathIn dir)
  holds : ∀ t ∈ Tables.firsts done, tree.takes dir t.file = true →
    ∃ d, tree.Holds dir t.file.path t.file.content d

namespace Settled

variable {dir : String} {done : List Table} {report : Report} {table : Table}
  {tree tree' : FileTree}

theorem nil (dir : String) (tree : FileTree) : Settled dir [] {} tree where
  rest := .inl rfl
  written := rfl
  holds _ h := by cases h

/-- Trying to make the directory settles whether that can be done. -/
theorem made {answer : Except SystemError Unit} (h : Settled dir done report tree)
    (made : tree.createDirectories dir = (answer, tree')) :
    Settled dir done report tree' ∧ (answer = .ok () → tree'.IsReady dir) ∧
      (∀ e, answer = .error e → tree'.IsStuck dir) := by
  have paver := createDirectories_paver dir
  have after : (answer = .ok () → tree'.IsReady dir) ∧
      (∀ e, answer = .error e → tree'.IsStuck dir) :=
    ⟨fun e => paver.ok (e ▸ made), fun e he => paver.stuck (he ▸ made)⟩
  refine ⟨?_, after⟩
  -- Only the first table can find a directory that has to be made.
  rcases h.rest with rfl | ⟨e, stuck⟩ | ready
  · exact { rest := .inl rfl, written := h.written, holds := fun _ h => by cases h }
  · rw [stuck] at made
    exact (Prod.mk.inj made).2 ▸ h
  · rw [paver.done ready] at made
    exact (Prod.mk.inj made).2 ▸ h

theorem duplicate {first : Table} (h : Settled dir done report tree)
    (rival : table.rival? done = some first) (e : EmitError) :
    Settled dir (done ++ [table]) (report.fail table.name e) tree where
  rest := by
    rcases h.rest with rfl | rest
    · cases rival
    · exact .inr rest
  written := by rw [Tables.firsts_concat_claimed rival]; exact h.written
  holds := by rw [Tables.firsts_concat_claimed rival]; exact h.holds

/-- A table whose file the tree does not take is not written. -/
theorem refuse (h : Settled dir done report tree) (free : table.rival? done = none)
    (rest : tree.IsStuck dir ∨ tree.IsReady dir) (no : tree.takes dir table.file = false)
    (e : EmitError) : Settled dir (done ++ [table]) (report.fail table.name e) tree where
  rest := .inr rest
  written := h.written.trans (paths_refused free no).symm
  holds t ht takes := by
    rw [Tables.firsts_concat_free free] at ht
    rcases List.mem_append.1 ht with ht | ht
    · exact h.holds t ht takes
    · rw [List.mem_singleton.1 ht, no] at takes
      cases takes

theorem write (h : Settled dir done report tree) (words : AllWords (done ++ [table]))
    (free : table.rival? done = none) (ready : tree.IsReady dir) {d : Location}
    (admits : tree.Admits dir table.file.path d) :
    Settled dir (done ++ [table]) (report.add (.written (table.pathIn dir)))
      (tree.set (table.file.path :: d) (.file table.file.content)) := by
  have takes : ∀ t ∈ done ++ [table],
      (tree.set (table.file.path :: d) (.file table.file.content)).takes dir t.file =
        tree.takes dir t.file := by
    intro t ht
    exact takes_set admits ready (words.entry_of_mem ht)
  have yes : tree.takes dir table.file = true :=
    (takes_iff words.entry).2 ⟨ready, d, admits⟩
  refine
    { rest := .inr (.inr ((admits.grows _).isReady ready))
      written := ?_
      holds := fun t ht took => ?_ }
  · have same : (Tables.firsts (done ++ [table])).filter
        ((tree.set (table.file.path :: d) (.file table.file.content)).takes dir ·.file) =
          (Tables.firsts (done ++ [table])).filter (tree.takes dir ·.file) :=
      List.filter_congr fun t ht => takes t (Tables.mem_of_mem_firsts ht)
    rw [same, paths_taken free yes, ← h.written]
    rfl
  · rw [takes t (Tables.mem_of_mem_firsts ht)] at took
    rw [Tables.firsts_concat_free free] at ht
    rcases List.mem_append.1 ht with ht | ht
    · obtain ⟨d', holds⟩ := h.holds t ht took
      have ne := Table.rival?_eq_none.1 free t (Tables.mem_of_mem_firsts ht)
      exact ⟨d', holds.write admits ne _⟩
    · rw [List.mem_singleton.1 ht]
      exact ⟨d, admits.write _⟩

theorem stored (h : Settled dir done report tree) (words : AllWords (done ++ [table]))
    (free : table.rival? done = none) {answer : Except SinkError Outcome}
    (stored : Stored dir (table.pathIn dir) table.file.content tree answer tree') :
    Settled dir (done ++ [table]) (report.answered table answer) tree' := by
  cases stored with
  | noDirectory made =>
    obtain ⟨settled, -, stuck⟩ := h.made made
    have stuck := stuck _ rfl
    exact settled.refuse free (.inl stuck) (stuck.takes _) _
  | @notWritten cause _ made failed =>
    obtain ⟨settled, ready, -⟩ := h.made made
    refine settled.refuse free (.inr (ready rfl)) ?_ _
    rw [takes, show Path.join dir table.file.path = table.pathIn dir from rfl, failed]
    simp [Except.isOk, Except.toBool]
  | written made wrote =>
    obtain ⟨settled, ready, -⟩ := h.made made
    obtain ⟨d, admits, rfl⟩ := (writeFile_join words.entry).1 wrote
    exact settled.write words free (ready rfl) admits

end Settled

theorem emit_always {dir : String} {file : GeneratedFile} {w w' : Workspace}
    {answer : Except SinkError Outcome}
    (h : (Sink.files Workspace.host dir .always).emit file w = (answer, w')) :
    Stored dir (Path.join dir file.path) file.content w.tree answer w'.tree := by
  have cases := emit_emitted dir .always file w
  rw [h] at cases
  cases cases with
  | unanswered asks => cases asks.1
  | kept asks => cases asks.1
  | free _ stored => exact stored
  | allowed asks => cases asks.1

theorem preserved_settled (dir : String) :
    Command.Preserved Workspace.host (Sink.files Workspace.host dir .always)
      fun done report w => AllWords done → Settled dir done report w.tree where
  log _ h := h
  note _ h := h
  duplicate h rival words := (h words.init).duplicate rival _
  taken h free emitted words := (h words.init).stored words free (emit_always emitted)
  refused h free emitted words := (h words.init).stored words free (emit_always emitted)

/-! ## The second run -/

/-- From a tree at rest nothing changes, and the same models are written. -/
structure Repeated (dir : String) (rest : FileTree) (done : List Table) (report : Report)
    (tree : FileTree) : Prop where
  same : tree = rest ∨ rest.IsReady dir ∧ SameNodes rest tree
  written : report.written =
    ((Tables.firsts done).filter (rest.takes dir ·.file)).map (·.pathIn dir)

namespace Repeated

variable {dir : String} {tables done : List Table} {first report : Report} {table : Table}
  {rest tree tree' : FileTree}

theorem nodes (h : Repeated dir rest done report tree) : SameNodes rest tree := by
  rcases h.same with rfl | ⟨-, same⟩
  · exact .refl tree
  · exact same

theorem duplicate {rival : Table} (h : Repeated dir rest done report tree)
    (hr : table.rival? done = some rival) (e : EmitError) :
    Repeated dir rest (done ++ [table]) (report.fail table.name e) tree where
  same := h.same
  written := by rw [Tables.firsts_concat_claimed hr]; exact h.written

theorem refuse (h : Repeated dir rest done report tree) (free : table.rival? done = none)
    (no : rest.takes dir table.file = false) (e : EmitError) :
    Repeated dir rest (done ++ [table]) (report.fail table.name e) tree where
  same := h.same
  written := h.written.trans (paths_refused free no).symm

/-- The directory is made again exactly if it was there, and that changes nothing. -/
theorem made {answer : Except SystemError Unit} (h : Repeated dir rest done report tree)
    (settled : Settled dir tables first rest) (hne : tables ≠ [])
    (made : tree.createDirectories dir = (answer, tree')) :
    tree' = tree ∧ (answer = .ok () → rest.IsReady dir) ∧
      (∀ e, answer = .error e → rest.IsStuck dir) := by
  rcases settled.rest.resolve_left hne with stuck | ready
  · obtain rfl := h.same.resolve_right fun ⟨ready, _⟩ => stuck.not_ready ready
    obtain ⟨e, he⟩ := stuck
    rw [he] at made
    obtain ⟨rfl, rfl⟩ := Prod.mk.inj made
    exact ⟨rfl, nofun, fun _ _ => ⟨e, he⟩⟩
  · have done := (createDirectories_paver dir).done (h.nodes.grows.isReady ready)
    rw [done] at made
    obtain ⟨rfl, rfl⟩ := Prod.mk.inj made
    exact ⟨rfl, fun _ => ready, nofun⟩

theorem stored (h : Repeated dir rest done report tree) (settled : Settled dir tables first rest)
    (words : AllWords tables) (hp : done ++ [table] <+: tables)
    (free : table.rival? done = none) {answer : Except SinkError Outcome}
    (stored : Stored dir (table.pathIn dir) table.file.content tree answer tree') :
    Repeated dir rest (done ++ [table]) (report.answered table answer) tree' := by
  have hne : tables ≠ [] := fun e => by simp [e] at hp
  have entry : Path.IsEntry table.file.path := words.entry_of_mem (hp.subset (by simp))
  cases stored with
  | noDirectory made =>
    obtain ⟨rfl, -, stuck⟩ := h.made settled hne made
    exact h.refuse free ((stuck _ rfl).takes _) _
  | notWritten made failed =>
    obtain ⟨rfl, ready, -⟩ := h.made settled hne made
    refine h.refuse free ?_ _
    rw [← Bool.not_eq_true, takes_iff entry]
    rintro ⟨-, d, admits⟩
    have wrote := (h.nodes.admits admits).writeFile entry table.file.content
    rw [show Path.join dir table.file.path = table.pathIn dir from rfl, failed] at wrote
    cases wrote
  | written made wrote =>
    obtain ⟨rfl, ready, -⟩ := h.made settled hne made
    have ready := ready rfl
    obtain ⟨d, admits, rfl⟩ := (writeFile_join entry).1 wrote
    have admits := h.nodes.symm.admits admits
    have yes : rest.takes dir table.file = true := (takes_iff entry).2 ⟨ready, d, admits⟩
    -- The first run wrote the same model there, so writing it changes no node.
    have mem : table ∈ Tables.firsts tables := by
      obtain ⟨more, rfl⟩ := hp
      refine (Tables.firsts_prefix (done ++ [table]) more).subset ?_
      rw [Tables.firsts_concat_free free]
      simp
    obtain ⟨d', holds⟩ := settled.holds table mem yes
    obtain rfl := admits.unique holds.admits
    refine
      { same := .inr ⟨ready, h.nodes.set holds.content⟩
        written := ?_ }
    rw [paths_taken free yes, ← h.written]
    rfl

end Repeated

theorem preserved_repeated {dir : String} {tables : List Table} {first : Report}
    {rest : FileTree} (settled : Settled dir tables first rest) (words : AllWords tables) :
    Command.Preserved Workspace.host (Sink.files Workspace.host dir .always)
      fun done report w => done <+: tables → Repeated dir rest done report w.tree where
  log _ h := h
  note _ h := h
  duplicate h rival hp := (h ((List.prefix_append _ _).trans hp)).duplicate rival _
  taken h free emitted hp :=
    (h ((List.prefix_append _ _).trans hp)).stored settled words hp free (emit_always emitted)
  refused h free emitted hp :=
    (h ((List.prefix_append _ _).trans hp)).stored settled words hp free (emit_always emitted)

end WideColumn
