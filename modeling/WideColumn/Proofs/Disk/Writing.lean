import WideColumn.Proofs.Disk.Directories

/-!
# Writing to any path

A file may be written at a path that climbs out of its directory with two dots, and such a path can
lead nowhere until a directory on the way is made. `writeFile_ok` and `writeFile_of_status` say what
writing does at any path. In a tree whose files and directories all hang together, making
directories opens no other paths than those that climb: `status_of_noClimb`.
-/

namespace WideColumn

/-- A path that the system takes has a name, unless it is absolute. -/
theorem Path.names_ne_nil {path : String} {route : Path.Route} (h : Path.route? path = .ok route)
    (relative : ¬ Path.isAbsolute path.toList = true) : Path.names path.toList ≠ [] := by
  cases hpath : path.toList with
  | nil => simp [Path.route?, hpath] at h
  | cons c rest =>
    have hc : c ≠ '/' := fun e => relative (by simp [Path.isAbsolute, hpath, e])
    unfold Path.names
    rw [Text.splitAt, if_neg hc]
    split <;> simp

namespace FileTree

/-! ## Writing -/

theorem start_of_route (tree : FileTree) {path : String} {route : Path.Route}
    (h : Path.route? path = .ok route) :
    tree.start route = tree.startOf path ∧ route.names = Path.names path.toList := by
  rw [Path.route?_eq h]
  exact ⟨rfl, rfl⟩

/-- What writing a file did: it put the text at a location that is no directory, and from then on
the path leads there. It led there before if a file was there. -/
theorem writeFile_ok {tree tree' : FileTree} {path content : String}
    (h : tree.writeFile path content = .ok tree') :
    ∃ l, l ≠ [] ∧ tree.node? l ≠ some .directory ∧ tree' = tree.set l (.file content) ∧
      ∀ {grown : FileTree} {text : String}, Grows tree grown →
        grown.node? l = some (.file text) → grown.status path = .ok (l, .file text) := by
  unfold writeFile at h
  simp only [bind_ok_iff, parent_ok_iff] at h
  obtain ⟨route, hr, d, ⟨hw, hd⟩, h⟩ := h
  obtain ⟨start, names⟩ := start_of_route tree hr
  split at h
  · cases h
  case _ name entry =>
    obtain ⟨concat, hn, hu⟩ := entryName?_eq_some entry
    split at h
    · cases h
    case isFalse file =>
      split at h
      · cases h
      case isFalse short =>
        split at h
        · cases h
        case isFalse free =>
          refine ⟨name :: d, by simp, free, (Except.ok.inj h).symm, ?_⟩
          intro grown text grows there
          refine status_ok_iff.2 ⟨route, hr, ?_, there, fun needs => absurd needs file⟩
          rw [start, names] at hw
          unfold follow
          rw [← names, concat, grows.startOf, walk_append_ok]
          refine ⟨d, by rw [names]; exact grows.walk hw, ?_⟩
          rw [walk_singleton]
          exact step_down (grows.directory hd) hn hu (by omega) (by simp [there])

/-! ## Trees that hang together -/

/-- Everything but the root is in a directory. -/
def IsRooted (tree : FileTree) : Prop :=
  ∀ name d, (tree.node? (name :: d)).isSome → tree.node? d = some .directory

/-- It is enough to look at what the tree lists. -/
theorem isRooted_of_nodes {tree : FileTree}
    (h : ∀ entry ∈ tree.nodes, tree.node? entry.1.tail = some .directory) : tree.IsRooted := by
  intro name d there
  rw [node?, if_neg (by simp), Option.isSome_iff_exists] at there
  obtain ⟨node, hnode⟩ := there
  obtain ⟨front, back, hnodes, -⟩ := List.lookup_eq_some_iff.1 hnode
  exact h (name :: d, node) (by simp [hnodes])

namespace IsRooted

variable {tree tree' : FileTree}

/-- The way to something goes through directories. -/
theorem isSome_of_isSuffix (h : tree.IsRooted) {l l' : Location} (suffix : l <:+ l')
    (there : (tree.node? l').isSome) : (tree.node? l).isSome := by
  obtain ⟨names, rfl⟩ := suffix
  induction names with
  | nil => exact there
  | cons name names ih =>
    have outer : tree.node? (names ++ l) = some .directory := h name _ there
    exact ih (by simp [outer])

theorem makeDirectory (h : tree.IsRooted) {path : String}
    (made : tree.makeDirectory path = .ok tree') : tree'.IsRooted := by
  obtain ⟨-, d, name, -, hd, free, rfl⟩ := makeDirectory_ok made
  have grows : Grows tree (tree.set (name :: d) .directory) := .set_directory (by simp) free
  intro name' d' there
  rw [node?_set tree _ _ (by simp)] at there
  split at there
  case isTrue e => exact (List.cons.inj e).2 ▸ grows.directory hd
  case isFalse => exact grows.directory (h name' d' there)

end IsRooted

/-! ## Making directories, step by step -/

section Preserved

variable {P : FileTree → Prop}
  (step : ∀ {tree tree' : FileTree} {path : String}, P tree →
    tree.makeDirectory path = .ok tree' → P tree')

include step

theorem ensure_preserves {path : String}
    {makeParents : FileTree → Except SystemError Unit × FileTree}
    (parents : ∀ {tree}, P tree → P (makeParents tree).2) {tree : FileTree} (h : P tree) :
    P (ensure path makeParents tree).2 := by
  have made : ∀ {answer tree'}, makeParents tree = (answer, tree') → P tree' := by
    intro answer tree' e
    have := parents h
    rwa [e] at this
  have ensured := ensure_ensured path makeParents tree
  generalize ensure path makeParents tree = result at ensured
  obtain ⟨answer, tree'⟩ := result
  cases ensured with
  | made hm => exact step h hm
  | present => exact h
  | refused => exact h
  | noParents _ hp => exact made hp
  | madeLater hp hm => exact step (made hp) hm
  | presentLater hp => exact made hp
  | refusedLater hp => exact made hp

theorem ensureAll_preserves (isAbsolute : Bool) :
    ∀ (names : List String) {tree : FileTree}, P tree → P (ensureAll isAbsolute names tree).2
  | [], _, h => h
  | _ :: outer, _, h => ensure_preserves step (ensureAll_preserves isAbsolute outer) h

/-- What making one directory keeps, making all directories on a way keeps. -/
theorem createDirectories_preserves (dir : String) {tree : FileTree} (h : P tree) :
    P (tree.createDirectories dir).2 := by
  unfold createDirectories
  split
  · exact h
  · exact ensure_preserves step (ensureAll_preserves step _ _) h

end Preserved

theorem IsRooted.createDirectories {tree tree' : FileTree} {dir : String}
    {answer : Except SystemError Unit} (h : tree.IsRooted)
    (made : tree.createDirectories dir = (answer, tree')) : tree'.IsRooted := by
  have := createDirectories_preserves (P := IsRooted) (fun h made => h.makeDirectory made) dir h
  rwa [made] at this

/-! ## Paths that lead to a file -/

/-- A path that leads to a file can be written, and that puts the text into the file. -/
theorem writeFile_of_status {tree : FileTree} {path old : String} {l : Location}
    (rooted : tree.IsRooted) (h : tree.status path = .ok (l, .file old)) (content : String) :
    tree.writeFile path content = .ok (tree.set l (.file content)) := by
  obtain ⟨route, hr, hf, hn, needs⟩ := status_ok_iff.1 h
  have file : route.needsDirectory = false := by
    rw [← Bool.not_eq_true]
    exact fun hd => by cases needs hd
  obtain ⟨start, names⟩ := start_of_route tree hr
  have nonempty : Path.names path.toList ≠ [] := by
    intro none
    rw [follow, none, walk_nil, startOf] at hf
    split at hf
    case isTrue =>
      obtain rfl := Except.ok.inj hf
      cases hn
    case isFalse relative => exact Path.names_ne_nil hr relative none
  obtain ⟨outer, last, concat⟩ := (List.eq_nil_or_concat _).resolve_left nonempty
  rw [List.concat_eq_append] at concat
  rw [follow, concat, walk_append_ok] at hf
  obtain ⟨d, hw, hs⟩ := hf
  rw [walk_singleton] at hs
  obtain ⟨hd, ⟨-, rfl⟩ | ⟨-, rfl⟩ | ⟨hdot, hdots, short, -, rfl⟩⟩ := step_ok hs
  · rw [hd] at hn
    cases hn
  · -- The directory above a directory is no file.
    cases d with
    | nil =>
      rw [List.tail_nil, hd] at hn
      cases hn
    | cons name outer =>
      have above : tree.node? outer = some .directory := rooted name outer (by simp [hd])
      rw [List.tail_cons, above] at hn
      cases hn
  · have entry : entryName? route = some last := by
      unfold entryName?
      rw [names, concat, List.getLast?_concat]
      simp [hdot, hdots]
    have parent : tree.parent route = .ok d := by
      rw [parent_ok_iff, start, names, concat, List.dropLast_concat]
      exact ⟨hw, hd⟩
    unfold writeFile
    simp only [hr, parent, entry, file, bind, Except.bind]
    rw [if_neg (by simp), if_neg (by omega), if_neg (by simp [hn])]
    rfl

/-! ## Paths that do not climb -/

theorem isSuffix_of_walk {tree : FileTree} {l l' : Location} {names : List String}
    (h : tree.walk l names = .ok l') (noClimb : ".." ∉ names) : l <:+ l' := by
  induction names generalizing l with
  | nil => exact Except.ok.inj h ▸ List.suffix_rfl
  | cons name names ih =>
    obtain ⟨m, hs, hw⟩ := walk_cons_ok.1 h
    rw [List.mem_cons, not_or] at noClimb
    have rest := ih hw noClimb.2
    obtain ⟨-, ⟨-, rfl⟩ | ⟨e, -⟩ | ⟨-, -, -, -, rfl⟩⟩ := step_ok hs
    · exact rest
    · exact absurd e.symm noClimb.1
    · exact (List.suffix_cons name l).trans rest

/-- A way that does not climb was there before the tree grew, if what it leads to was. -/
theorem walk_of_grows {before after : FileTree} (rooted : before.IsRooted)
    (grows : Grows before after) {l l' : Location} {names : List String}
    (h : after.walk l names = .ok l') (noClimb : ".." ∉ names)
    (there : (before.node? l').isSome) : before.walk l names = .ok l' := by
  induction names generalizing l with
  | nil => exact h
  | cons name names ih =>
    obtain ⟨m, hs, hw⟩ := walk_cons_ok.1 h
    have whole := isSuffix_of_walk h noClimb
    rw [List.mem_cons, not_or] at noClimb
    have next := rooted.isSome_of_isSuffix (isSuffix_of_walk hw noClimb.2) there
    refine walk_cons_ok.2 ⟨m, ?_, ih hw noClimb.2⟩
    obtain ⟨hd, way⟩ := step_ok hs
    have directory : before.node? l = some .directory := by
      obtain ⟨node, hnode⟩ := Option.isSome_iff_exists.1 (rooted.isSome_of_isSuffix whole there)
      cases node with
      | directory => exact hnode
      | file text =>
        obtain ⟨text', hfile⟩ := grows.file hnode
        rw [hd] at hfile
        cases hfile
    obtain ⟨rfl, rfl⟩ | ⟨e, -⟩ | ⟨hn, hu, short, -, rfl⟩ := way
    · exact step_stay directory
    · exact absurd e.symm noClimb.1
    · exact step_down directory hn hu short next

/-- A path that does not climb led to a file before the tree grew, if the file was there. -/
theorem status_of_noClimb {before after : FileTree} (rooted : before.IsRooted)
    (grows : Grows before after) {path old text : String} {l : Location}
    (h : after.status path = .ok (l, .file text)) (there : before.node? l = some (.file old))
    (noClimb : ".." ∉ Path.names path.toList) : before.status path = .ok (l, .file old) := by
  obtain ⟨route, hr, hf, -, needs⟩ := status_ok_iff.1 h
  refine status_ok_iff.2 ⟨route, hr, ?_, there, fun hd => by cases needs hd⟩
  unfold follow at hf ⊢
  rw [grows.startOf] at hf
  exact walk_of_grows rooted grows hf noClimb (by simp [there])

end FileTree

end WideColumn
