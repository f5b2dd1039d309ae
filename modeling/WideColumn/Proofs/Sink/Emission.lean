import WideColumn.Proofs.Disk.Writing
import WideColumn.Proofs.Sink.Files

/-!
# All or nothing

A file that is handed to the sink is stored or left alone. It is left alone if the user is asked
and does not agree, and then not even its directory is made. If it cannot be stored after all, no
file has another text than before.

Main definitions: `Sink.asks`, `Sink.Emits`.
Main result: `Sink.files_emits`.
-/

namespace WideColumn

open FileTree

/-! ## Storing -/

namespace Stored

variable {dir path content : String} {tree tree' : FileTree} {answer : Except SinkError Outcome}

theorem grows (h : Stored dir path content tree answer tree') : Grows tree tree' := by
  cases h with
  | noDirectory made => exact ((createDirectories_paver dir).paves made).grows
  | notWritten made _ => exact ((createDirectories_paver dir).paves made).grows
  | written made wrote =>
    obtain ⟨l, root, free, rfl, -⟩ := writeFile_ok wrote
    exact ((createDirectories_paver dir).paves made).grows.trans (.set_file root free content)

/-- A file that cannot be stored leaves directories behind, and nothing else. -/
theorem failed {e : SinkError} (h : Stored dir path content tree (.error e) tree') :
    (∃ cause, e = .write dir cause ∨ e = .write path cause) ∧ Paves dir tree tree' := by
  cases h with
  | noDirectory made => exact ⟨⟨_, .inl rfl⟩, (createDirectories_paver dir).paves made⟩
  | notWritten made _ => exact ⟨⟨_, .inr rfl⟩, (createDirectories_paver dir).paves made⟩

/-- A file that was stored is where its path leads, and nothing else changed but for the
directories that were made. -/
theorem leads {outcome : Outcome} (h : Stored dir path content tree (.ok outcome) tree') :
    ∃ l, tree'.status path = .ok (l, .file content) ∧
      ∀ other ≠ l, tree'.node? other = tree.node? other ∨
        tree.node? other = none ∧ tree'.node? other = some .directory ∧
          tree'.OnTheWay dir other := by
  cases h with
  | @written made _ hmade wrote =>
    have paves := (createDirectories_paver dir).paves hmade
    obtain ⟨l, root, free, rfl, found⟩ := writeFile_ok wrote
    have grows : Grows made (made.set l (.file content)) := .set_file root free content
    refine ⟨l, found grows (by rw [node?_set made _ _ root, if_pos rfl]), fun other hne => ?_⟩
    rw [node?_set made _ _ root, if_neg hne]
    exact (paves.frame other).imp_right fun ⟨missing, directory, way⟩ =>
      ⟨missing, directory, way.grows grows⟩

end Stored

/-! ## Asking -/

namespace Workspace

/-- The reply to the next question. -/
def nextReply (w : Workspace) : Reply := w.replies.head?.getD .no

/-- The workspace after a question. -/
def answered (w : Workspace) (question : String) : Workspace :=
  { w with
    replies := w.replies.tail
    inputIsSpent := true
    events := w.events ++ [.asked question] }

theorem asked_answered (path : String) (w : Workspace) :
    Asked path w (w.answered (Sink.question path)) where
  replies := rfl
  questions := by simp [answered, questions]

theorem confirm_apply (question : String) (w : Workspace) :
    host.confirm question w =
      (match w.nextReply with
        | .yes => .ok true
        | .no => .ok false
        | .failure cause => .error cause,
        w.answered question) := by
  rw [ask_apply]
  unfold nextReply answered
  rcases w.replies with _ | ⟨_ | _ | cause, rest⟩ <;> rfl

end Workspace

namespace Sink

/-- The user can tell from the question which file it is about. -/
theorem path_infix_question (path : String) : path.toList <:+: (question path).toList := by
  rw [question, String.toList_append]
  exact (List.prefix_append _ _).isInfix

/-- The user has to be asked before a file goes to a path. -/
def asks (policy : OverwritePolicy) (tree : FileTree) (path : String) : Bool :=
  policy = .ask && tree.isPresent path

theorem asks_eq_true_iff {policy : OverwritePolicy} {tree : FileTree} {path : String} :
    asks policy tree path = true ↔ policy = .ask ∧ tree.isPresent path = true := by
  simp [asks]

theorem mayWrite_apply (policy : OverwritePolicy) (path : String) (w : Workspace) :
    mayWrite Workspace.host policy path w =
      if asks policy w.tree path then Workspace.host.confirm (question path) w
      else (.ok true, w) := by
  unfold mayWrite asks
  cases policy with
  | always => rfl
  | ask =>
    dsimp only
    rw [bind_apply, Workspace.isPresent_apply]
    cases w.tree.isPresent path <;> rfl

variable {dir : String} {policy : OverwritePolicy} {file : GeneratedFile} {w : Workspace}

theorem emit_unasked (h : asks policy w.tree (Path.join dir file.path) = false) :
    (files Workspace.host dir policy).emit file w =
      store Workspace.host dir (Path.join dir file.path) file.content w := by
  unfold files
  dsimp only
  rw [bind_apply, mayWrite_apply, if_neg (by simp [h])]

theorem emit_asked (h : asks policy w.tree (Path.join dir file.path) = true) :
    (files Workspace.host dir policy).emit file w =
      let path := Path.join dir file.path
      let after := w.answered (question path)
      match w.nextReply with
      | .yes => store Workspace.host dir path file.content after
      | .no =>
        (.ok (.skipped path),
          { after with
            events := after.events ++ [.logged
              { level := .info
                area := .sink
                message := "kept existing file"
                fields := [.plain "path" path] }] })
      | .failure cause => (.error (.confirm cause), after) := by
  unfold files
  dsimp only
  rw [bind_apply, mayWrite_apply, if_pos h, Workspace.confirm_apply]
  cases w.nextReply <;> rfl

/-! ## The whole request -/

/-- What handing a file to the sink comes to: a question if there has to be one, and then nothing at
all or the whole file. -/
structure Emits (dir path content : String) (policy : OverwritePolicy) (w : Workspace)
    (answer : Except SinkError Outcome) (w' : Workspace) : Prop where
  questions : w'.questions =
    w.questions ++ if asks policy w.tree path then [question path] else []
  /-- The question names the path. -/
  named : path.toList <:+: (question path).toList
  replies : w'.replies = if asks policy w.tree path then w.replies.tail else w.replies
  /-- The user wants to keep what is there. -/
  refused : asks policy w.tree path = true → w.nextReply = .no →
    answer = .ok (.skipped path) ∧ w'.tree = w.tree
  /-- The reply cannot be read. -/
  unanswered : ∀ cause, asks policy w.tree path = true → w.nextReply = .failure cause →
    answer = .error (.confirm cause) ∧ w'.tree = w.tree
  /-- Otherwise the file is written, unless it cannot be. -/
  agreed : (asks policy w.tree path = true → w.nextReply = .yes) →
    answer = .ok (.written path) ∨
      ∃ cause, answer = .error (.write dir cause) ∨ answer = .error (.write path cause)
  /-- The path leads to the new text, and everything else is as it was, but for directories on the
  way to the given one that were missing. -/
  written : ∀ p, answer = .ok (.written p) → p = path ∧
    ∃ l, w'.tree.status path = .ok (l, .file content) ∧
      ∀ other ≠ l, w'.tree.node? other = w.tree.node? other ∨
        w.tree.node? other = none ∧ w'.tree.node? other = some .directory ∧
          w'.tree.OnTheWay dir other
  /-- No more than such directories was made. -/
  failed : ∀ p cause, answer = .error (.write p cause) → Paves dir w.tree w'.tree

/-- A file that was stored, from the state after a question or without one. -/
theorem emits_of_stored {path content : String} {answer : Except SinkError Outcome}
    {w' : Workspace} (stored : Stored dir path content w.tree answer w'.tree)
    (yes : asks policy w.tree path = true → w.nextReply = .yes)
    (questions : w'.questions =
      w.questions ++ if asks policy w.tree path then [question path] else [])
    (replies : w'.replies = if asks policy w.tree path then w.replies.tail else w.replies) :
    Emits dir path content policy w answer w' where
  questions := questions
  named := path_infix_question path
  replies := replies
  refused ask no := by rw [yes ask] at no; cases no
  unanswered cause ask failure := by rw [yes ask] at failure; cases failure
  agreed _ := by
    cases answer with
    | ok outcome => exact .inl (by rw [stored.outcome])
    | error e =>
      obtain ⟨⟨cause, rfl | rfl⟩, -⟩ := stored.failed
      · exact .inr ⟨cause, .inl rfl⟩
      · exact .inr ⟨cause, .inr rfl⟩
  written p h := by
    subst h
    exact ⟨Outcome.written.inj stored.outcome, stored.leads⟩
  failed p cause h := by
    subst h
    exact stored.failed.2

/-- The file sink stores a file as a whole or leaves it alone, and asks before that just if the user
has a say in it. -/
theorem files_emits (dir : String) (policy : OverwritePolicy) (file : GeneratedFile)
    (w : Workspace) :
    Emits dir (Path.join dir file.path) file.content policy w
      ((files Workspace.host dir policy).emit file w).1
      ((files Workspace.host dir policy).emit file w).2 := by
  generalize hpath : Path.join dir file.path = path
  cases ask : asks policy w.tree path with
  | false =>
    rw [emit_unasked (by rw [hpath, ask]), hpath]
    obtain ⟨stored, silent⟩ := store_stored dir path file.content w
    exact emits_of_stored stored (by simp [ask]) (by simp [ask, silent.questions])
      (by simp [ask, silent.replies])
  | true =>
    rw [emit_asked (by rw [hpath, ask]), hpath]
    obtain ⟨replies, questions⟩ := Workspace.asked_answered path w
    cases reply : w.nextReply with
    | yes =>
      obtain ⟨stored, silent⟩ :=
        store_stored dir path file.content (w.answered (question path))
      exact emits_of_stored stored (fun _ => reply)
        (by simp [ask, silent.questions, questions]) (by simp [ask, silent.replies, replies])
    | no =>
      exact
        { questions := by simpa [ask] using (Workspace.questions_logged _ _).trans questions
          named := path_infix_question path
          replies := by simpa [ask] using replies
          refused := fun _ _ => ⟨rfl, rfl⟩
          unanswered := by simp [reply]
          agreed := by simp [ask, reply]
          written := by simp
          failed := by simp }
    | failure cause =>
      exact
        { questions := by simpa [ask] using questions
          named := path_infix_question path
          replies := by simpa [ask] using replies
          refused := by simp [reply]
          unanswered := fun cause' _ same => by
            rw [Reply.failure.inj (reply.symm.trans same)]
            exact ⟨rfl, rfl⟩
          agreed := by simp [ask, reply]
          written := by simp
          failed := by simp }

end Sink

end WideColumn
