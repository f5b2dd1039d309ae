import WideColumn.Disk.FileTree
import WideColumn.Proofs.Disk.Path

/-!
# Growing trees

A tree grows when its directories stay directories and its files stay files, whatever is written to
them. All that a walk asks of a tree stays true then, so a path that leads somewhere keeps leading
there.
-/

namespace WideColumn

theorem bind_ok_iff {ε α β : Type} {x : Except ε α} {f : α → Except ε β} {b : β} :
    (x >>= f) = .ok b ↔ ∃ a, x = .ok a ∧ f a = .ok b := by
  cases x with
  | error e => simp [bind, Except.bind]
  | ok a => simp [bind, Except.bind]

namespace FileTree

/-! ## Walks -/

/-- What a step did: it stood still, went up, or went down to something that is there. -/
theorem step_ok {tree : FileTree} {l l' : Location} {name : String}
    (h : tree.step l name = .ok l') :
    tree.node? l = some .directory ∧
      (name = "." ∧ l' = l ∨ name = ".." ∧ l' = l.tail ∨
        name ≠ "." ∧ name ≠ ".." ∧ name.utf8ByteSize ≤ Path.maxNameBytes ∧
          (tree.node? (name :: l)).isSome ∧ l' = name :: l) := by
  unfold step at h
  split at h
  · cases h
  case isFalse hd =>
    refine ⟨Decidable.not_not.1 hd, ?_⟩
    split at h
    case isTrue hn => exact .inl ⟨hn, (Except.ok.inj h).symm⟩
    case isFalse hn =>
      split at h
      case isTrue hu => exact .inr (.inl ⟨hu, (Except.ok.inj h).symm⟩)
      case isFalse hu =>
        split at h
        · cases h
        case isFalse short =>
          split at h
          · cases h
          case isFalse there =>
            refine .inr (.inr ⟨hn, hu, by omega, ?_, (Except.ok.inj h).symm⟩)
            simpa [Option.isSome_iff_ne_none] using there

theorem step_down {tree : FileTree} {l : Location} {name : String}
    (hd : tree.node? l = some .directory) (hn : name ≠ ".") (hu : name ≠ "..")
    (short : name.utf8ByteSize ≤ Path.maxNameBytes) (there : (tree.node? (name :: l)).isSome) :
    tree.step l name = .ok (name :: l) := by
  unfold step
  rw [if_neg (by simpa using hd), if_neg hn, if_neg hu, if_neg (by omega),
    if_neg (by simpa [Option.isSome_iff_ne_none] using there)]

theorem step_stay {tree : FileTree} {l : Location} (hd : tree.node? l = some .directory) :
    tree.step l "." = .ok l := by
  unfold step
  rw [if_neg (by simpa using hd), if_pos rfl]

theorem step_up {tree : FileTree} {l : Location} (hd : tree.node? l = some .directory) :
    tree.step l ".." = .ok l.tail := by
  unfold step
  rw [if_neg (by simpa using hd), if_neg (by decide), if_pos rfl]

theorem walk_nil (tree : FileTree) (l : Location) : tree.walk l [] = .ok l := rfl

theorem walk_cons_ok {tree : FileTree} {l l' : Location} {name : String} {names : List String} :
    tree.walk l (name :: names) = .ok l' ↔
      ∃ m, tree.step l name = .ok m ∧ tree.walk m names = .ok l' := by
  exact bind_ok_iff

theorem walk_append_ok {tree : FileTree} {l l' : Location} {names more : List String} :
    tree.walk l (names ++ more) = .ok l' ↔
      ∃ m, tree.walk l names = .ok m ∧ tree.walk m more = .ok l' := by
  induction names generalizing l with
  | nil => simp [walk_nil]
  | cons name names ih =>
    rw [List.cons_append, walk_cons_ok]
    constructor
    · rintro ⟨n, hs, hw⟩
      obtain ⟨m, hn, hm⟩ := ih.1 hw
      exact ⟨m, walk_cons_ok.2 ⟨n, hs, hn⟩, hm⟩
    · rintro ⟨m, hn, hm⟩
      obtain ⟨n, hs, hw⟩ := walk_cons_ok.1 hn
      exact ⟨n, hs, ih.2 ⟨m, hw, hm⟩⟩

theorem walk_singleton (tree : FileTree) (l : Location) (name : String) :
    tree.walk l [name] = tree.step l name := by
  change (tree.step l name >>= fun m => tree.walk m []) = _
  cases tree.step l name <;> rfl

/-- A walk that ends at a directory goes through directories only. -/
theorem directory_of_walk_prefix {tree : FileTree} {l l' : Location} {names more : List String}
    (h : tree.walk l names = .ok l') (hd : tree.node? l' = some .directory)
    (hp : more <+: names) :
    ∃ m, tree.walk l more = .ok m ∧ tree.node? m = some .directory := by
  obtain ⟨rest, rfl⟩ := hp
  obtain ⟨m, hm, hr⟩ := walk_append_ok.1 h
  refine ⟨m, hm, ?_⟩
  cases rest with
  | nil => exact Except.ok.inj hr ▸ hd
  | cons name rest =>
    obtain ⟨n, hs, -⟩ := walk_cons_ok.1 hr
    exact (step_ok hs).1

theorem walk_filter_dots {tree : FileTree} {l l' : Location} {names : List String}
    (h : tree.walk l names = .ok l') : tree.walk l (names.filter (· ≠ ".")) = .ok l' := by
  induction names generalizing l with
  | nil => exact h
  | cons name names ih =>
    obtain ⟨m, hs, hw⟩ := walk_cons_ok.1 h
    by_cases hn : name = "."
    · subst hn
      rw [step_stay (step_ok hs).1] at hs
      rw [List.filter_cons_of_neg (by simp), Except.ok.inj hs]
      exact ih hw
    · rw [List.filter_cons_of_pos (by simpa using hn)]
      exact walk_cons_ok.2 ⟨m, hs, ih hw⟩

/-- The dots on a way can be left out. -/
theorem walk_withoutDots {tree : FileTree} {l l' : Location} {names : List String}
    (isAbsolute : Bool) (h : tree.walk l names = .ok l') :
    tree.walk l (Path.withoutDots isAbsolute names) = .ok l' := by
  cases names with
  | nil => exact h
  | cons name names =>
    rw [Path.withoutDots]
    split
    · obtain ⟨m, hs, hw⟩ := walk_cons_ok.1 h
      exact walk_cons_ok.2 ⟨m, hs, walk_filter_dots hw⟩
    · exact walk_filter_dots h

/-! ## Growth -/

/-- Directories stay directories, and files stay files. -/
structure Grows (tree tree' : FileTree) : Prop where
  workingDirectory : tree'.workingDirectory = tree.workingDirectory
  directory : ∀ {l}, tree.node? l = some .directory → tree'.node? l = some .directory
  file : ∀ {l content}, tree.node? l = some (.file content) →
    ∃ content', tree'.node? l = some (.file content')

namespace Grows

variable {tree tree' tree'' : FileTree}

theorem refl (tree : FileTree) : Grows tree tree := ⟨rfl, id, fun h => ⟨_, h⟩⟩

theorem trans (h : Grows tree tree') (h' : Grows tree' tree'') : Grows tree tree'' where
  workingDirectory := h'.workingDirectory.trans h.workingDirectory
  directory hd := h'.directory (h.directory hd)
  file hf :=
    have ⟨_, hf'⟩ := h.file hf
    h'.file hf'

theorem isSome (h : Grows tree tree') {l : Location} (hl : (tree.node? l).isSome) :
    (tree'.node? l).isSome := by
  obtain ⟨node, hn⟩ := Option.isSome_iff_exists.1 hl
  cases node with
  | file content =>
    obtain ⟨_, hf⟩ := h.file hn
    simp [hf]
  | directory => simp [h.directory hn]

theorem step (h : Grows tree tree') {l l' : Location} {name : String}
    (hs : tree.step l name = .ok l') : tree'.step l name = .ok l' := by
  obtain ⟨hd, ⟨rfl, rfl⟩ | ⟨rfl, rfl⟩ | ⟨hn, hu, short, there, rfl⟩⟩ := step_ok hs
  · exact step_stay (h.directory hd)
  · exact step_up (h.directory hd)
  · exact step_down (h.directory hd) hn hu short (h.isSome there)

theorem walk (h : Grows tree tree') {l l' : Location} {names : List String}
    (hw : tree.walk l names = .ok l') : tree'.walk l names = .ok l' := by
  induction names generalizing l with
  | nil => exact hw
  | cons name names ih =>
    obtain ⟨m, hs, hr⟩ := walk_cons_ok.1 hw
    exact walk_cons_ok.2 ⟨m, h.step hs, ih hr⟩

theorem set_file {l : Location} (hl : l ≠ []) (hd : tree.node? l ≠ some .directory)
    (content : String) : Grows tree (tree.set l (.file content)) where
  workingDirectory := rfl
  directory {m} hm := by
    have : m ≠ l := fun e => hd (e ▸ hm)
    rw [node?_set tree m _ hl, if_neg this, hm]
  file {m c} hm := by
    rw [node?_set tree m _ hl]
    by_cases e : m = l
    · exact ⟨content, by rw [if_pos e]⟩
    · exact ⟨c, by rw [if_neg e, hm]⟩

theorem set_directory {l : Location} (hl : l ≠ []) (hn : tree.node? l = none) :
    Grows tree (tree.set l .directory) where
  workingDirectory := rfl
  directory {m} hm := by
    have : m ≠ l := fun e => by simp [← e, hm] at hn
    rw [node?_set tree m _ hl, if_neg this, hm]
  file {m c} hm := by
    have : m ≠ l := fun e => by simp [← e, hm] at hn
    exact ⟨c, by rw [node?_set tree m _ hl, if_neg this, hm]⟩

end Grows

/-! ## Paths -/

/-- Where the way of a path begins. -/
def startOf (tree : FileTree) (path : String) : Location :=
  if Path.isAbsolute path.toList then [] else tree.workingDirectory

/-- Where the names of a path lead. -/
def follow (tree : FileTree) (path : String) : Except SystemError Location :=
  tree.walk (tree.startOf path) (Path.names path.toList)

theorem Grows.startOf {tree tree' : FileTree} (h : Grows tree tree') (path : String) :
    tree'.startOf path = tree.startOf path := by
  unfold FileTree.startOf
  rw [h.workingDirectory]

theorem Grows.follow {tree tree' : FileTree} (h : Grows tree tree') {path : String}
    {l : Location} (hf : tree.follow path = .ok l) : tree'.follow path = .ok l := by
  unfold FileTree.follow at hf ⊢
  rw [h.startOf]
  exact h.walk hf

theorem status_ok_iff {tree : FileTree} {path : String} {l : Location} {node : Node} :
    tree.status path = .ok (l, node) ↔
      ∃ route, Path.route? path = .ok route ∧ tree.follow path = .ok l ∧
        tree.node? l = some node ∧ (route.needsDirectory = true → node = .directory) := by
  unfold status
  cases hr : Path.route? path with
  | error e => simp [bind, Except.bind]
  | ok route =>
    have start : tree.walk (tree.start route) route.names = tree.follow path := by
      rw [Path.route?_eq hr]
      rfl
    simp only [bind, Except.bind, start, pure, Except.pure, throw, throwThe,
      MonadExceptOf.throw, Except.ok.injEq, exists_eq_left']
    cases tree.follow path with
    | error e => simp
    | ok m =>
      simp only [Except.ok.injEq]
      cases hn : tree.node? m with
      | none =>
        simp only [reduceCtorEq, false_iff]
        rintro ⟨rfl, hl, -⟩
        rw [hn] at hl
        cases hl
      | some found =>
        constructor
        · intro h
          dsimp only at h
          split at h
          · cases h
          case isFalse hd =>
            cases h
            exact ⟨rfl, hn, fun hr => by simpa [hr] using hd⟩
        · rintro ⟨rfl, hl, hd⟩
          obtain rfl := Option.some.inj (hn.symm.trans hl)
          dsimp only
          rw [if_neg]
          simpa using hd

theorem isDirectory_iff {tree : FileTree} {path : String} :
    tree.isDirectory path = true ↔
      ∃ route l, Path.route? path = .ok route ∧ tree.follow path = .ok l ∧
        tree.node? l = some .directory := by
  unfold isDirectory
  constructor
  · intro h
    split at h
    case _ l hs =>
      obtain ⟨route, hr, hf, hd, -⟩ := status_ok_iff.1 hs
      exact ⟨route, l, hr, hf, hd⟩
    case _ => cases h
  · rintro ⟨route, l, hr, hf, hd⟩
    rw [status_ok_iff.2 ⟨route, hr, hf, hd, fun _ => rfl⟩]

theorem isPresent_iff {tree : FileTree} {path : String} :
    tree.isPresent path = true ↔ ∃ l node, tree.status path = .ok (l, node) := by
  unfold isPresent
  cases h : tree.status path with
  | error e => simp [Except.isOk, Except.toBool]
  | ok found =>
    obtain ⟨l, node⟩ := found
    simp [Except.isOk, Except.toBool]

theorem readFile_ok_iff {tree : FileTree} {path content : String} :
    tree.readFile path = .ok content ↔ ∃ l, tree.status path = .ok (l, .file content) := by
  unfold readFile
  constructor
  · intro h
    split at h
    case _ l c hs => exact ⟨l, by rw [hs, Except.ok.inj h]⟩
    case _ => cases h
    case _ => cases h
  · rintro ⟨l, hs⟩
    rw [hs]

/-- The location that a path leads to. -/
def location? (tree : FileTree) (path : String) : Option Location :=
  (tree.status path).toOption.map (·.1)

theorem location?_of_status {tree : FileTree} {path : String} {l : Location} {node : Node}
    (h : tree.status path = .ok (l, node)) : tree.location? path = some l := by
  simp [location?, h, Except.toOption]

theorem status_of_location? {tree : FileTree} {path : String} {l : Location}
    (h : tree.location? path = some l) : ∃ node, tree.status path = .ok (l, node) := by
  unfold location? at h
  cases hs : tree.status path with
  | error e => simp [hs, Except.toOption] at h
  | ok found =>
    obtain ⟨m, node⟩ := found
    obtain rfl : m = l := by simpa [hs, Except.toOption] using h
    exact ⟨node, rfl⟩

namespace Grows

variable {tree tree' : FileTree}

theorem isDirectory (h : Grows tree tree') {path : String} (hd : tree.isDirectory path = true) :
    tree'.isDirectory path = true := by
  obtain ⟨route, l, hr, hf, hl⟩ := isDirectory_iff.1 hd
  exact isDirectory_iff.2 ⟨route, l, hr, h.follow hf, h.directory hl⟩

/-- A path that leads to a file leads to the file of the same location. -/
theorem status_file (h : Grows tree tree') {path content : String} {l : Location}
    (hs : tree.status path = .ok (l, .file content)) :
    ∃ content', tree'.status path = .ok (l, .file content') := by
  obtain ⟨route, hr, hf, hn, hd⟩ := status_ok_iff.1 hs
  obtain ⟨content', hn'⟩ := h.file hn
  refine ⟨content', status_ok_iff.2 ⟨route, hr, h.follow hf, hn', fun needs => ?_⟩⟩
  cases hd needs

/-- A path keeps leading to the same location. -/
theorem location? (h : Grows tree tree') {path : String} {l : Location}
    (hl : tree.location? path = some l) : tree'.location? path = some l := by
  obtain ⟨node, hs⟩ := status_of_location? hl
  cases node with
  | file content =>
    obtain ⟨content', hs'⟩ := h.status_file hs
    exact location?_of_status hs'
  | directory =>
    obtain ⟨route, hr, hf, hn, -⟩ := status_ok_iff.1 hs
    exact location?_of_status
      (status_ok_iff.2 ⟨route, hr, h.follow hf, h.directory hn, fun _ => rfl⟩)

theorem isPresent (h : Grows tree tree') {path : String} (hp : tree.isPresent path = true) :
    tree'.isPresent path = true := by
  obtain ⟨l, node, hs⟩ := isPresent_iff.1 hp
  obtain ⟨node', hs'⟩ := status_of_location? (h.location? (location?_of_status hs))
  exact isPresent_iff.2 ⟨l, node', hs'⟩

end Grows

end FileTree

end WideColumn
