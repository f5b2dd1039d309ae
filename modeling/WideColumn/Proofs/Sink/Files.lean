import WideColumn.Proofs.Command.Run
import WideColumn.Proofs.Disk.Directories
import WideColumn.Sink
import WideColumn.Workspace

/-!
# The file sink on a workspace

`Emitted` says everything that handing a file to the sink can do to a workspace: the user does not
answer or refuses, and then the tree stays, or the file is stored as far as the tree allows.
-/

namespace WideColumn

namespace Workspace

theorem isPresent_apply (path : String) (w : Workspace) :
    host.isPresent path w = (w.tree.isPresent path, w) := rfl

theorem createDirectories_apply (path : String) (w : Workspace) :
    host.createDirectories path w =
      ((w.tree.createDirectories path).1,
        { w with tree := (w.tree.createDirectories path).2 }) := rfl

theorem request_apply (change : FileTree → Except SystemError FileTree) (w : Workspace) :
    request change w =
      match change w.tree with
      | .ok tree => (.ok (), { w with tree })
      | .error e => (.error e, w) := by
  unfold request
  rw [bind_apply, show (get : StateM Workspace Workspace) w = (w, w) from rfl]
  dsimp only
  cases change w.tree <;> rfl

theorem writeFile_apply (path content : String) (w : Workspace) :
    host.writeFile path content w =
      match w.tree.writeFile path content with
      | .ok tree => (.ok (), { w with tree })
      | .error e => (.error e, w) :=
  request_apply (·.writeFile path content) w

theorem questions_logged (w : Workspace) (record : Log.Record) :
    questions { w with events := w.events ++ [.logged record] } = w.questions := by
  simp [questions]

theorem questions_noted (w : Workspace) (note : Note) :
    questions { w with events := w.events ++ [.noted note] } = w.questions := by
  simp [questions]

/-- Nobody was asked in between. -/
structure Silent (w w' : Workspace) : Prop where
  replies : w'.replies = w.replies
  questions : w'.questions = w.questions

/-- The user was asked about a path in between, and a reply was used up. -/
structure Asked (path : String) (w w' : Workspace) : Prop where
  replies : w'.replies = w.replies.tail
  questions : w'.questions = w.questions ++ [Sink.question path]

end Workspace

open Workspace

/-- What became of a file that was stored below a directory: as much of the way as there is was
made, and then the file was written. -/
inductive Stored (dir path content : String) (tree : FileTree) :
    Except SinkError Outcome → FileTree → Prop
  | noDirectory {cause : SystemError} {tree' : FileTree} :
      tree.createDirectories dir = (.error cause, tree') →
      Stored dir path content tree (.error (.write dir cause)) tree'
  | notWritten {cause : SystemError} {tree' : FileTree} :
      tree.createDirectories dir = (.ok (), tree') →
      tree'.writeFile path content = .error cause →
      Stored dir path content tree (.error (.write path cause)) tree'
  | written {tree' tree'' : FileTree} :
      tree.createDirectories dir = (.ok (), tree') →
      tree'.writeFile path content = .ok tree'' →
      Stored dir path content tree (.ok (.written path)) tree''

theorem Stored.outcome {dir path content : String} {tree tree' : FileTree} {outcome : Outcome}
    (h : Stored dir path content tree (.ok outcome) tree') : outcome = .written path := by
  cases h with
  | written => rfl

theorem store_stored (dir path content : String) (w : Workspace) :
    Stored dir path content w.tree (Sink.store host dir path content w).1
        (Sink.store host dir path content w).2.tree ∧
      Silent w (Sink.store host dir path content w).2 := by
  unfold Sink.store
  rw [bind_apply, createDirectories_apply]
  cases hc : w.tree.createDirectories dir with
  | mk answer tree' =>
    cases answer with
    | error cause => exact ⟨.noDirectory hc, rfl, rfl⟩
    | ok _ =>
      dsimp only
      rw [bind_apply, writeFile_apply]
      dsimp only
      cases hw : tree'.writeFile path content with
      | error cause => exact ⟨.notWritten hc hw, rfl, rfl⟩
      | ok tree'' =>
        refine ⟨.written hc hw, rfl, ?_⟩
        exact questions_logged _ _

/-! ## Asking -/

theorem ask_apply (question : String) (w : Workspace) :
    host.confirm question w =
      let shown := { w with inputIsSpent := true, events := w.events ++ [.asked question] }
      match w.replies with
      | [] => (.ok false, shown)
      | .yes :: rest => (.ok true, { shown with replies := rest })
      | .no :: rest => (.ok false, { shown with replies := rest })
      | .failure cause :: rest => (.error cause, { shown with replies := rest }) := by
  obtain ⟨tree, searchPath, replies, inputIsSpent, room, printed, events⟩ := w
  cases replies with
  | nil => rfl
  | cons reply rest => cases reply <;> rfl

/-- What asking about a path did: a reply was used up, and only a yes counts as one. -/
theorem confirm_asked (path : String) (w : Workspace) :
    (host.confirm (Sink.question path) w).2.tree = w.tree ∧
      Asked path w (host.confirm (Sink.question path) w).2 ∧
      ((host.confirm (Sink.question path) w).1 = .ok true → w.replies.head? = some .yes) := by
  rw [ask_apply]
  rcases hr : w.replies with _ | ⟨_ | _ | cause, rest⟩
  · exact ⟨rfl, ⟨by simp [hr], by simp [questions]⟩, by simp⟩
  · exact ⟨rfl, ⟨by simp [hr], by simp [questions]⟩, fun _ => rfl⟩
  · exact ⟨rfl, ⟨by simp [hr], by simp [questions]⟩, by simp⟩
  · exact ⟨rfl, ⟨by simp [hr], by simp [questions]⟩, by simp⟩

/-! ## The sink -/

/-- What handing a file to the sink did. -/
inductive Emitted (dir : String) (policy : OverwritePolicy) (file : GeneratedFile)
    (w : Workspace) : Except SinkError Outcome → Workspace → Prop
  /-- The user's reply cannot be read. -/
  | unanswered {cause : SystemError} {w' : Workspace} :
      policy = .ask ∧ w.tree.isPresent (Path.join dir file.path) = true →
      w'.tree = w.tree → Asked (Path.join dir file.path) w w' →
      Emitted dir policy file w (.error (.confirm cause)) w'
  /-- The user wants to keep the file. -/
  | kept {w' : Workspace} :
      policy = .ask ∧ w.tree.isPresent (Path.join dir file.path) = true →
      w'.tree = w.tree → Asked (Path.join dir file.path) w w' →
      Emitted dir policy file w (.ok (.skipped (Path.join dir file.path))) w'
  /-- The file is stored without a question. -/
  | free {answer : Except SinkError Outcome} {w' : Workspace} :
      policy = .always ∨ w.tree.isPresent (Path.join dir file.path) = false →
      Stored dir (Path.join dir file.path) file.content w.tree answer w'.tree →
      Silent w w' → Emitted dir policy file w answer w'
  /-- The file is stored with the consent of the user. -/
  | allowed {answer : Except SinkError Outcome} {w' : Workspace} :
      policy = .ask ∧ w.tree.isPresent (Path.join dir file.path) = true →
      w.replies.head? = some .yes →
      Stored dir (Path.join dir file.path) file.content w.tree answer w'.tree →
      Asked (Path.join dir file.path) w w' → Emitted dir policy file w answer w'

theorem emit_emitted (dir : String) (policy : OverwritePolicy) (file : GeneratedFile)
    (w : Workspace) :
    Emitted dir policy file w ((Sink.files host dir policy).emit file w).1
      ((Sink.files host dir policy).emit file w).2 := by
  -- The file is stored from the state after a question, but from the same tree.
  have storing : ∀ w₀ : Workspace, w₀.tree = w.tree →
      Stored dir (Path.join dir file.path) file.content w.tree
          (Sink.store host dir (Path.join dir file.path) file.content w₀).1
          (Sink.store host dir (Path.join dir file.path) file.content w₀).2.tree ∧
        Silent w₀ (Sink.store host dir (Path.join dir file.path) file.content w₀).2 :=
    fun w₀ h => h ▸ store_stored dir (Path.join dir file.path) file.content w₀
  unfold Sink.files
  dsimp only
  rw [bind_apply]
  unfold Sink.mayWrite
  cases policy with
  | always => exact .free (.inl rfl) (storing w rfl).1 (storing w rfl).2
  | ask =>
    dsimp only
    rw [bind_apply, isPresent_apply]
    dsimp only
    cases hp : w.tree.isPresent (Path.join dir file.path) with
    | false => exact .free (.inr hp) (storing w rfl).1 (storing w rfl).2
    | true =>
      rw [if_pos rfl]
      obtain ⟨tree, asked, yes⟩ := confirm_asked (Path.join dir file.path) w
      cases hc : host.confirm (Sink.question (Path.join dir file.path)) w with
      | mk answer w' =>
        rw [hc] at tree asked yes
        cases answer with
        | error cause => exact .unanswered ⟨rfl, hp⟩ tree asked
        | ok agreed =>
          cases agreed with
          | false =>
            refine .kept ⟨rfl, hp⟩ tree ⟨asked.replies, ?_⟩
            exact (questions_logged w' _).trans asked.questions
          | true =>
            obtain ⟨stored, silent⟩ := storing w' tree
            exact .allowed ⟨rfl, hp⟩ (yes rfl) stored
              ⟨silent.replies.trans asked.replies, silent.questions.trans asked.questions⟩

/-- The tree after the sink: as it was if the user kept the file, else what storing it made. -/
theorem Emitted.tree {dir : String} {policy : OverwritePolicy} {file : GeneratedFile}
    {w w' : Workspace} {answer : Except SinkError Outcome}
    (h : Emitted dir policy file w answer w') :
    w'.tree = w.tree ∧ (answer = .ok (.skipped (Path.join dir file.path)) ∨
        ∃ cause, answer = .error (.confirm cause)) ∨
      Stored dir (Path.join dir file.path) file.content w.tree answer w'.tree := by
  cases h with
  | unanswered _ tree => exact .inl ⟨tree, .inr ⟨_, rfl⟩⟩
  | kept _ tree => exact .inl ⟨tree, .inl rfl⟩
  | free _ stored => exact .inr stored
  | allowed _ _ stored => exact .inr stored

end WideColumn
