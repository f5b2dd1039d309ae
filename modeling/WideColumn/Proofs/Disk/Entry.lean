import WideColumn.Proofs.Disk.Growth

/-!
# Entries of a directory

A path that joins a directory and a name leads to the location of the name below that of the
directory. Whether the file can be written depends on the directory and on what stands in its
place, and never on its text.
-/

namespace WideColumn

/-- A name of an entry in a directory: neither the directory itself nor the one above. -/
structure Path.IsEntry (name : String) : Prop where
  isName : Path.IsName name
  ne_dot : name ≠ "."
  ne_dots : name ≠ ".."

namespace FileTree

variable {tree tree' : FileTree} {dir name content : String}

theorem startOf_join (tree : FileTree) (dir : String) (h : Path.IsEntry name) :
    tree.startOf (Path.join dir name) = tree.startOf dir := by
  unfold startOf
  rw [Path.isAbsolute_join dir h.isName]

theorem follow_join (h : Path.IsEntry name) {l : Location} :
    tree.follow (Path.join dir name) = .ok l ↔
      ∃ d, tree.follow dir = .ok d ∧ tree.step d name = .ok l := by
  unfold follow
  rw [startOf_join tree dir h, Path.names_join dir h.isName, walk_append_ok]
  simp only [walk_singleton]

/-- A path that joins a directory and a name leads below the directory, if it leads anywhere. -/
theorem status_join (h : Path.IsEntry name) {l : Location} {node : Node}
    (hs : tree.status (Path.join dir name) = .ok (l, node)) :
    ∃ d, tree.follow dir = .ok d ∧ tree.node? d = some .directory ∧ l = name :: d ∧
      tree.node? l = some node := by
  obtain ⟨route, -, hf, hn, -⟩ := status_ok_iff.1 hs
  obtain ⟨d, hd, step⟩ := (follow_join h).1 hf
  obtain ⟨directory, ⟨e, -⟩ | ⟨e, -⟩ | ⟨-, -, -, -, rfl⟩⟩ := step_ok step
  · exact absurd e h.ne_dot
  · exact absurd e h.ne_dots
  · exact ⟨d, hd, directory, rfl, hn⟩

/-- The system takes a file of the name in the directory, which is at location `d`. -/
structure Admits (tree : FileTree) (dir name : String) (d : Location) : Prop where
  route : ∃ route, Path.route? (Path.join dir name) = .ok route
  follow : tree.follow dir = .ok d
  directory : tree.node? d = some .directory
  short : name.utf8ByteSize ≤ Path.maxNameBytes
  free : tree.node? (name :: d) ≠ some .directory

theorem parent_ok_iff {route : Path.Route} {d : Location} :
    tree.parent route = .ok d ↔
      tree.walk (tree.start route) route.names.dropLast = .ok d ∧
        tree.node? d = some .directory := by
  unfold parent
  cases tree.walk (tree.start route) route.names.dropLast with
  | error e => simp [bind, Except.bind]
  | ok m =>
    simp only [bind, Except.bind, throw, throwThe, MonadExceptOf.throw, pure, Except.pure]
    by_cases hm : tree.node? m = some .directory
    · simp only [hm, ne_eq, not_true, if_false, Except.ok.injEq]
      exact ⟨fun e => ⟨e, e ▸ hm⟩, And.left⟩
    · simp only [hm, ne_eq, not_false_iff, if_true, reduceCtorEq, Except.ok.injEq, false_iff]
      rintro ⟨rfl, hd⟩
      exact hm hd

theorem route_join (tree : FileTree) (h : Path.IsEntry name) {route : Path.Route}
    (hr : Path.route? (Path.join dir name) = .ok route) :
    tree.start route = tree.startOf dir ∧ route.names.dropLast = Path.names dir.toList ∧
      entryName? route = some name ∧ route.needsDirectory = false := by
  rw [Path.route?_eq hr]
  refine ⟨startOf_join tree dir h, ?_, ?_, ?_⟩
  · dsimp only
    rw [Path.names_join dir h.isName, List.dropLast_concat]
  · unfold entryName?
    dsimp only
    rw [Path.names_join dir h.isName, List.getLast?_concat]
    simp [h.ne_dot, h.ne_dots]
  · simpa using Path.getLast?_join dir h.isName

theorem writeFile_join (h : Path.IsEntry name) :
    tree.writeFile (Path.join dir name) content = .ok tree' ↔
      ∃ d, tree.Admits dir name d ∧ tree' = tree.set (name :: d) (.file content) := by
  unfold writeFile
  simp only [bind_ok_iff, parent_ok_iff]
  constructor
  · rintro ⟨route, hr, d, ⟨hw, hd⟩, hs⟩
    obtain ⟨start, outer, entry, needs⟩ := route_join tree h hr
    rw [start, outer] at hw
    rw [entry] at hs
    simp only [needs] at hs
    rw [if_neg (by simp)] at hs
    split at hs
    · cases hs
    case isFalse short =>
      split at hs
      · cases hs
      case isFalse free =>
        exact ⟨d, ⟨⟨route, hr⟩, hw, hd, by omega, free⟩, (Except.ok.inj hs).symm⟩
  · rintro ⟨d, admits, rfl⟩
    obtain ⟨route, hr⟩ := admits.route
    obtain ⟨start, outer, entry, needs⟩ := route_join tree h hr
    refine ⟨route, hr, d, ⟨?_, admits.directory⟩, ?_⟩
    · rw [start, outer]
      exact admits.follow
    · rw [entry]
      simp only [needs]
      rw [if_neg (by simp), if_neg (by have := admits.short; omega), if_neg admits.free]
      rfl

theorem Admits.writeFile (h : Path.IsEntry name) {d : Location} (admits : tree.Admits dir name d)
    (content : String) :
    tree.writeFile (Path.join dir name) content =
      .ok (tree.set (name :: d) (.file content)) :=
  (writeFile_join h).2 ⟨d, admits, rfl⟩

/-- The path leads to the file that stands where the system would take one. -/
theorem Admits.status (h : Path.IsEntry name) {d : Location} (admits : tree.Admits dir name d)
    (hf : tree.node? (name :: d) = some (.file content)) :
    tree.status (Path.join dir name) = .ok (name :: d, .file content) := by
  obtain ⟨route, hr⟩ := admits.route
  refine status_ok_iff.2 ⟨route, hr, (follow_join h).2 ⟨d, admits.follow, ?_⟩, hf, ?_⟩
  · exact step_down admits.directory h.ne_dot h.ne_dots admits.short (by simp [hf])
  · intro needs
    obtain ⟨-, -, -, free⟩ := route_join tree h hr
    simp [free] at needs

end FileTree

end WideColumn
