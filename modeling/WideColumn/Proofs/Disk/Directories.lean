import WideColumn.Proofs.Disk.Entry

/-!
# Making directories

What `createDirectories` does to a tree: it only makes directories on the way to the one that is
asked for, and it comes to rest, in that a second request finds nothing more to make. Both are said
of any maker by `Paver` and proved along the way from the outermost directory on.
-/

namespace WideColumn.FileTree

/-! ## One directory -/

/-- The directory in which the last name of a path would be an entry is there. -/
def HasParent (tree : FileTree) (path : String) : Prop :=
  ∃ route d, Path.route? path = .ok route ∧
    tree.walk (tree.startOf path) (Path.names path.toList).dropLast = .ok d ∧
    tree.node? d = some .directory

theorem entryName?_eq_some {route : Path.Route} {name : String}
    (h : entryName? route = some name) :
    route.names = route.names.dropLast ++ [name] ∧ name ≠ "." ∧ name ≠ ".." := by
  unfold entryName? at h
  split at h
  case _ last hl =>
    split at h
    · cases h
    case isFalse hn =>
      obtain rfl := Option.some.inj h
      obtain ⟨outer, ho⟩ := List.getLast?_eq_some_iff.1 hl
      simp only [Bool.or_eq_true, decide_eq_true_eq, not_or] at hn
      exact ⟨by rw [ho, List.dropLast_concat], hn⟩
  case _ => cases h

/-- What making a directory did: it put one where nothing was, in a directory. -/
theorem makeDirectory_ok {tree tree' : FileTree} {path : String}
    (h : tree.makeDirectory path = .ok tree') :
    tree.HasParent path ∧ ∃ d name,
      tree'.follow path = .ok (name :: d) ∧ tree.node? d = some .directory ∧
        tree.node? (name :: d) = none ∧ tree' = tree.set (name :: d) .directory := by
  unfold makeDirectory at h
  simp only [bind_ok_iff, parent_ok_iff] at h
  obtain ⟨route, hr, d, ⟨hw, hd⟩, h⟩ := h
  have route_eq := Path.route?_eq hr
  have start : tree.start route = tree.startOf path := by
    rw [route_eq]
    rfl
  have names : route.names = Path.names path.toList := by rw [route_eq]
  split at h
  · cases h
  case _ name entry =>
    obtain ⟨concat, hn, hu⟩ := entryName?_eq_some entry
    split at h
    · cases h
    case isFalse short =>
      split at h
      · cases h
      case isFalse free =>
        have free : tree.node? (name :: d) = none := by simpa using free
        obtain rfl := (Except.ok.inj h).symm
        have grows : Grows tree (tree.set (name :: d) .directory) :=
          .set_directory (by simp) free
        rw [start, names] at hw
        refine ⟨⟨route, d, hr, hw, hd⟩, d, name, ?_, hd, free, rfl⟩
        unfold follow
        rw [← names, concat, grows.startOf, walk_append_ok]
        refine ⟨d, by rw [names]; exact grows.walk hw, ?_⟩
        rw [walk_singleton]
        refine step_down (grows.directory hd) hn hu (by omega) ?_
        rw [node?_set tree _ _ (by simp), if_pos rfl]
        rfl

theorem hasParent_of_isDirectory {tree : FileTree} {path : String}
    (h : tree.isDirectory path = true) : tree.HasParent path := by
  obtain ⟨route, l, hr, hf, hl⟩ := isDirectory_iff.1 h
  obtain ⟨d, hw, hd⟩ := directory_of_walk_prefix hf hl (List.dropLast_prefix _)
  exact ⟨route, d, hr, hw, hd⟩

theorem makeDirectory_of_isDirectory {tree : FileTree} {path : String}
    (h : tree.isDirectory path = true) : tree.makeDirectory path = .error .fileExists := by
  obtain ⟨route, l, hr, hf, hl⟩ := isDirectory_iff.1 h
  obtain ⟨d, hw, hd⟩ := directory_of_walk_prefix hf hl (List.dropLast_prefix _)
  have route_eq := Path.route?_eq hr
  have names : route.names = Path.names path.toList := by rw [route_eq]
  have parent : tree.parent route = .ok d := by
    rw [parent_ok_iff, names, route_eq]
    exact ⟨hw, hd⟩
  unfold makeDirectory
  simp only [hr, parent, bind, Except.bind]
  split
  · rfl
  case _ name entry =>
    obtain ⟨concat, hn, hu⟩ := entryName?_eq_some entry
    rw [follow, ← names, concat, names, walk_append_ok] at hf
    obtain ⟨m, hm, step⟩ := hf
    obtain rfl := Except.ok.inj (hw.symm.trans hm)
    rw [walk_singleton] at step
    obtain ⟨-, ⟨e, -⟩ | ⟨e, -⟩ | ⟨-, -, short, there, -⟩⟩ := step_ok step
    · exact absurd e hn
    · exact absurd e hu
    · rw [if_neg (by omega), if_pos there]
      rfl

/-! ## Directories on the way -/

/-- A location that the way to a directory leads through. -/
def OnTheWay (tree : FileTree) (dir : String) (l : Location) : Prop :=
  ∃ names, names <+: Path.components dir ∧ tree.walk (tree.startOf dir) names = .ok l

/-- The tree grows, and all that is new in it are directories on the way to one. -/
structure Paves (dir : String) (tree tree' : FileTree) : Prop where
  grows : Grows tree tree'
  frame : ∀ l, tree'.node? l = tree.node? l ∨
    tree.node? l = none ∧ tree'.node? l = some .directory ∧ tree'.OnTheWay dir l

theorem OnTheWay.grows {tree tree' : FileTree} {dir : String} {l : Location}
    (h : tree.OnTheWay dir l) (grows : Grows tree tree') : tree'.OnTheWay dir l := by
  obtain ⟨names, hp, hw⟩ := h
  exact ⟨names, hp, by rw [grows.startOf]; exact grows.walk hw⟩

namespace Paves

variable {dir : String} {tree tree' tree'' : FileTree}

theorem refl (dir : String) (tree : FileTree) : Paves dir tree tree :=
  ⟨.refl tree, fun _ => .inl rfl⟩

theorem trans (h : Paves dir tree tree') (h' : Paves dir tree' tree'') :
    Paves dir tree tree'' where
  grows := h.grows.trans h'.grows
  frame l := by
    rcases h'.frame l with same' | ⟨hn', hd', way'⟩
    · rcases h.frame l with same | ⟨hn, hd, way⟩
      · exact .inl (same'.trans same)
      · exact .inr ⟨hn, same'.trans hd, way.grows h'.grows⟩
    · rcases h.frame l with same | ⟨hn, hd, way⟩
      · exact .inr ⟨same ▸ hn', hd', way'⟩
      · rw [hd] at hn'
        cases hn'

theorem makeDirectory {path : String} (way : ∀ (t : FileTree) l, t.follow path = .ok l →
      t.OnTheWay dir l) (h : tree.makeDirectory path = .ok tree') : Paves dir tree tree' := by
  obtain ⟨-, d, name, follow, -, free, rfl⟩ := makeDirectory_ok h
  refine ⟨.set_directory (by simp) free, fun l => ?_⟩
  rw [node?_set tree l _ (by simp)]
  by_cases hl : l = name :: d
  · subst hl
    exact .inr ⟨free, if_pos rfl, way _ _ follow⟩
  · exact .inl (if_neg hl)

end Paves

/-! ## Makers -/

/-- A maker only makes directories on the way to one, stops when all is ready, and comes to rest if
it is refused. -/
structure Paver (dir : String) (ready : FileTree → Prop)
    (make : FileTree → Except SystemError Unit × FileTree) : Prop where
  paves : ∀ {tree tree' answer}, make tree = (answer, tree') → Paves dir tree tree'
  done : ∀ {tree}, ready tree → make tree = (.ok (), tree)
  ok : ∀ {tree tree'}, make tree = (.ok (), tree') → ready tree'
  stuck : ∀ {tree tree' e}, make tree = (.error e, tree') → ∃ e', make tree' = (.error e', tree')

theorem ensure_done {tree : FileTree} {path : String}
    {makeParents : FileTree → Except SystemError Unit × FileTree}
    (h : tree.isDirectory path = true) : ensure path makeParents tree = (.ok (), tree) := by
  unfold ensure
  rw [makeDirectory_of_isDirectory h]
  dsimp only [orPresent]
  rw [if_pos h]

theorem isDirectory_makeDirectory {tree tree' : FileTree} {path : String}
    (h : tree.makeDirectory path = .ok tree') : tree'.isDirectory path = true := by
  obtain ⟨⟨route, -, hr, -⟩, d, name, follow, -, -, rfl⟩ := makeDirectory_ok h
  refine isDirectory_iff.2 ⟨route, _, hr, follow, ?_⟩
  rw [node?_set tree _ _ (by simp), if_pos rfl]

/-- Every way in which a directory is made or found, or is refused. -/
inductive Ensured (path : String) (makeParents : FileTree → Except SystemError Unit × FileTree)
    (tree : FileTree) : Except SystemError Unit → FileTree → Prop
  | made {tree' : FileTree} :
      tree.makeDirectory path = .ok tree' → Ensured path makeParents tree (.ok ()) tree'
  | present : tree.isDirectory path = true → Ensured path makeParents tree (.ok ()) tree
  | refused {e : SystemError} :
      tree.makeDirectory path = .error e → e ≠ .noSuchFile → tree.isDirectory path = false →
      Ensured path makeParents tree (.error e) tree
  | noParents {e : SystemError} {tree' : FileTree} :
      tree.makeDirectory path = .error .noSuchFile → makeParents tree = (.error e, tree') →
      Ensured path makeParents tree (.error e) tree'
  | madeLater {tree' tree'' : FileTree} :
      makeParents tree = (.ok (), tree') → tree'.makeDirectory path = .ok tree'' →
      Ensured path makeParents tree (.ok ()) tree''
  | presentLater {tree' : FileTree} :
      makeParents tree = (.ok (), tree') → tree'.isDirectory path = true →
      Ensured path makeParents tree (.ok ()) tree'
  | refusedLater {e : SystemError} {tree' : FileTree} :
      makeParents tree = (.ok (), tree') → tree'.makeDirectory path = .error e →
      tree'.isDirectory path = false → Ensured path makeParents tree (.error e) tree'

theorem ensure_refused {path : String}
    (makeParents : FileTree → Except SystemError Unit × FileTree) {tree : FileTree}
    {e : SystemError} (h : tree.makeDirectory path = .error e) (he : e ≠ .noSuchFile) :
    ensure path makeParents tree = orPresent path tree e := by
  unfold ensure
  rw [h]
  cases e <;> first | rfl | exact absurd rfl he

theorem ensure_parents {path : String}
    (makeParents : FileTree → Except SystemError Unit × FileTree) {tree : FileTree}
    (h : tree.makeDirectory path = .error .noSuchFile) :
    ensure path makeParents tree =
      match makeParents tree with
      | (.error e, tree) => (.error e, tree)
      | (.ok (), tree) =>
        match tree.makeDirectory path with
        | .ok tree => (.ok (), tree)
        | .error e => orPresent path tree e := by
  unfold ensure
  split
  case _ made =>
    rw [h] at made
    cases made
  case _ => rfl
  case _ other refused =>
    exact absurd (Except.error.inj (refused.symm.trans h)) (by simpa using other)

theorem ensure_ensured (path : String)
    (makeParents : FileTree → Except SystemError Unit × FileTree) (tree : FileTree) :
    Ensured path makeParents tree (ensure path makeParents tree).1
      (ensure path makeParents tree).2 := by
  cases hm : tree.makeDirectory path with
  | ok tree' =>
    unfold ensure
    rw [hm]
    exact .made hm
  | error e =>
    by_cases he : e = .noSuchFile
    · subst he
      rw [ensure_parents makeParents hm]
      cases hp : makeParents tree with
      | mk answer tree' =>
        cases answer with
        | error e => exact .noParents hm hp
        | ok _ =>
          dsimp only
          cases hm' : tree'.makeDirectory path with
          | ok tree'' => exact .madeLater hp hm'
          | error e =>
            dsimp only [orPresent]
            cases hd : tree'.isDirectory path with
            | true => exact .presentLater hp hd
            | false => exact .refusedLater hp hm' hd
    · rw [ensure_refused makeParents hm he, orPresent]
      cases hd : tree.isDirectory path with
      | true => exact .present hd
      | false => exact .refused hm he hd

/-- A directory can be made on top of a maker that reaches its parent. -/
theorem Paver.ensure {dir path : String} {ready : FileTree → Prop}
    {make : FileTree → Except SystemError Unit × FileTree} (p : Paver dir ready make)
    (outer : ∀ tree, HasParent tree path → ready tree)
    (way : ∀ (t : FileTree) l, t.follow path = .ok l → t.OnTheWay dir l) :
    Paver dir (·.isDirectory path = true) (FileTree.ensure path make) where
  paves {tree tree' answer} h := by
    have ensured := ensure_ensured path make tree
    rw [h] at ensured
    cases ensured with
    | made hm => exact .makeDirectory way hm
    | present => exact .refl dir _
    | refused => exact .refl dir _
    | noParents _ hp => exact p.paves hp
    | madeLater hp hm => exact (p.paves hp).trans (.makeDirectory way hm)
    | presentLater hp => exact p.paves hp
    | refusedLater hp => exact p.paves hp
  done h := ensure_done h
  ok {tree tree'} h := by
    have ensured := ensure_ensured path make tree
    rw [h] at ensured
    cases ensured with
    | made hm => exact isDirectory_makeDirectory hm
    | present hd => exact hd
    | madeLater _ hm => exact isDirectory_makeDirectory hm
    | presentLater _ hd => exact hd
  stuck {tree tree' e} h := by
    have ensured := ensure_ensured path make tree
    rw [h] at ensured
    cases ensured with
    | refused => exact ⟨e, h⟩
    | noParents _ hp =>
      -- The parents are at rest but not reached, so the directory itself cannot be made or found.
      obtain ⟨e', again⟩ := p.stuck hp
      have unready : ¬ ready tree' := fun hr => by
        rw [p.done hr] at again
        cases again
      cases hm : tree'.makeDirectory path with
      | ok t => exact absurd (outer _ (makeDirectory_ok hm).1) unready
      | error e'' =>
        by_cases he : e'' = .noSuchFile
        · subst he
          exact ⟨e', by rw [ensure_parents make hm, again]⟩
        · have hd : ¬ tree'.isDirectory path = true :=
            fun hd => unready (outer _ (hasParent_of_isDirectory hd))
          exact ⟨e'', by rw [ensure_refused make hm he, orPresent, if_neg hd]⟩
    | refusedLater hp hm hd =>
      -- The parents are reached, so trying again meets the same refusal.
      have again := p.done (p.ok hp)
      refine ⟨e, ?_⟩
      by_cases he : e = .noSuchFile
      · subst he
        rw [ensure_parents make hm, again]
        dsimp only
        rw [hm]
        simp [orPresent, hd]
      · rw [ensure_refused make hm he, orPresent, if_neg (by simp [hd])]

/-! ## All directories on the way -/

theorem isName_of_mem_components {dir name : String} (h : name ∈ Path.components dir) :
    Path.IsName name := by
  rw [Path.components_eq] at h
  exact Path.isName_of_mem_names ((Path.withoutDots_sublist _ _).subset h)

theorem components_sublist (dir : String) :
    (Path.components dir).Sublist (Path.names dir.toList) := by
  rw [Path.components_eq]
  exact Path.withoutDots_sublist _ _

/-- The path of the first components of a directory is one of its parents. -/
theorem follow_ofComponents {dir : String} {names : List String}
    (hp : names <+: Path.components dir) (hne : names ≠ []) (tree : FileTree) :
    tree.follow (Path.ofComponents (Path.isAbsolute dir.toList) names) =
      tree.walk (tree.startOf dir) names := by
  have isName : ∀ c ∈ names, Path.IsName c :=
    fun c hc => isName_of_mem_components (hp.subset hc)
  unfold follow startOf
  rw [Path.names_ofComponents _ isName, Path.isAbsolute_ofComponents _ isName hne]

/-- The parents of a path that the system takes are directories if the way goes through them. -/
theorem isDirectory_ofComponents {dir : String} {names : List String} {route : Path.Route}
    {tree : FileTree} {l : Location} (hp : names <+: Path.components dir) (hne : names ≠ [])
    {path : String} (hr : Path.route? path = .ok route)
    (hs : (Path.ofComponents (Path.isAbsolute dir.toList) names).toList.Sublist path.toList)
    (hw : tree.walk (tree.startOf dir) names = .ok l) (hl : tree.node? l = some .directory) :
    tree.isDirectory (Path.ofComponents (Path.isAbsolute dir.toList) names) = true := by
  have isName : ∀ c ∈ names, Path.IsName c :=
    fun c hc => isName_of_mem_components (hp.subset hc)
  have nonempty : Path.ofComponents (Path.isAbsolute dir.toList) names ≠ "" := by
    intro e
    have := Path.names_ofComponents (Path.isAbsolute dir.toList) isName
    rw [e] at this
    exact hne this.symm
  refine isDirectory_iff.2 ⟨_, l, Path.route?_of_sublist hr hs nonempty, ?_, hl⟩
  rw [follow_ofComponents hp hne]
  exact hw

/-- What the last of some components would be an entry of is reached through those before it. -/
theorem isDirectory_of_hasParent {dir name : String} {outer : List String} {tree : FileTree}
    (hp : outer ++ [name] <+: Path.components dir) (hne : outer ≠ [])
    (h : tree.HasParent (Path.ofComponents (Path.isAbsolute dir.toList) (outer ++ [name]))) :
    tree.isDirectory (Path.ofComponents (Path.isAbsolute dir.toList) outer) = true := by
  have isName : ∀ c ∈ outer ++ [name], Path.IsName c :=
    fun c hc => isName_of_mem_components (hp.subset hc)
  have names := Path.names_ofComponents (Path.isAbsolute dir.toList) isName
  have absolute := Path.isAbsolute_ofComponents (Path.isAbsolute dir.toList) isName (by simp)
  obtain ⟨route, d, hr, hw, hd⟩ := h
  rw [names, List.dropLast_concat, startOf, absolute] at hw
  have shorter : outer.Sublist (Path.names
      (Path.ofComponents (Path.isAbsolute dir.toList) (outer ++ [name])).toList) := by
    rw [names]
    exact List.sublist_append_left _ _
  have part := Path.ofComponents_sublist shorter
  rw [absolute] at part
  exact isDirectory_ofComponents ((List.prefix_append _ _).trans hp) hne hr part hw hd

/-- By induction from the outermost directory on, each is made on top of the one before it. -/
theorem ensureAll_paver (dir : String) :
    ∀ names : List String, names.reverse <+: Path.components dir →
      Paver dir
        (fun tree => names = [] ∨ tree.isDirectory
          (Path.ofComponents (Path.isAbsolute dir.toList) names.reverse) = true)
        (ensureAll (Path.isAbsolute dir.toList) names)
  | [], _ =>
    { paves := fun h => by
        cases h
        exact .refl dir _
      done := fun _ => rfl
      ok := fun _ => .inl rfl
      stuck := fun h => by cases h }
  | name :: outer, hp => by
    rw [List.reverse_cons] at hp
    have parents := ensureAll_paver dir outer ((List.prefix_append _ _).trans hp)
    have reached : ∀ tree : FileTree, tree.HasParent
          (Path.ofComponents (Path.isAbsolute dir.toList) (outer.reverse ++ [name])) →
        outer = [] ∨ tree.isDirectory
          (Path.ofComponents (Path.isAbsolute dir.toList) outer.reverse) = true := by
      intro tree h
      by_cases hne : outer = []
      · exact .inl hne
      · exact .inr (isDirectory_of_hasParent hp (by simpa using hne) h)
    have way : ∀ (t : FileTree) l, t.follow
          (Path.ofComponents (Path.isAbsolute dir.toList) (outer.reverse ++ [name])) = .ok l →
        t.OnTheWay dir l := by
      intro t l hf
      rw [follow_ofComponents hp (by simp)] at hf
      exact ⟨_, hp, hf⟩
    have paver := parents.ensure reached way
    rw [← List.reverse_cons] at paver
    exact
      { paves := paver.paves
        done := fun h => paver.done (h.resolve_left (by simp))
        ok := fun h => .inr (paver.ok h)
        stuck := paver.stuck }

/-! ## The whole request -/

/-- The directory need not be made: it is the working directory, or it is there. -/
def IsReady (tree : FileTree) (dir : String) : Prop := dir = "" ∨ tree.isDirectory dir = true

theorem Grows.isReady {tree tree' : FileTree} (h : Grows tree tree') {dir : String}
    (hr : tree.IsReady dir) : tree'.IsReady dir :=
  hr.imp id h.isDirectory

/-- What a directory would be an entry of is reached by its components but the last. -/
theorem isDirectory_dropLast {tree : FileTree} {dir : String} (h : tree.HasParent dir)
    (hne : (Path.components dir).dropLast ≠ []) :
    tree.isDirectory
      (Path.ofComponents (Path.isAbsolute dir.toList) (Path.components dir).dropLast) = true := by
  obtain ⟨route, d, hr, hw, hd⟩ := h
  have nonempty : Path.names dir.toList ≠ [] := by
    intro e
    rw [Path.components_eq, e] at hne
    exact hne rfl
  have inner : (Path.components dir).dropLast <+:
      Path.withoutDots (Path.isAbsolute dir.toList) (Path.names dir.toList).dropLast := by
    rw [Path.components_eq]
    conv => lhs; rw [← List.dropLast_concat_getLast nonempty]
    exact Path.dropLast_withoutDots _ _ _
  obtain ⟨m, hm, hmd⟩ := directory_of_walk_prefix (walk_withoutDots _ hw) hd inner
  exact isDirectory_ofComponents (List.dropLast_prefix _) hne hr
    (Path.ofComponents_sublist ((List.dropLast_sublist _).trans (components_sublist dir))) hm hmd

theorem onTheWay_of_follow {tree : FileTree} {dir : String} {l : Location}
    (h : tree.follow dir = .ok l) : tree.OnTheWay dir l := by
  refine ⟨Path.components dir, List.prefix_rfl, ?_⟩
  rw [Path.components_eq]
  exact walk_withoutDots _ h

theorem createDirectories_paver (dir : String) :
    Paver dir (·.IsReady dir) (FileTree.createDirectories dir) := by
  by_cases he : dir = ""
  · have idle : ∀ tree : FileTree, tree.createDirectories dir = (.ok (), tree) := by
      intro tree
      simp [createDirectories, he]
    exact
      { paves := fun h => by
          rw [idle] at h
          cases h
          exact .refl dir _
        done := fun _ => idle _
        ok := fun _ => .inl he
        stuck := fun h => by
          rw [idle] at h
          cases h }
  have ensured : FileTree.createDirectories dir = FileTree.ensure dir
      (ensureAll (Path.isAbsolute dir.toList) (Path.components dir).reverse.tail) := by
    funext tree
    unfold createDirectories
    rw [if_neg (by simpa using he)]
  have reversed : (Path.components dir).reverse.tail.reverse = (Path.components dir).dropLast := by
    rw [List.tail_reverse, List.reverse_reverse]
  -- The last directory is asked for as it is written, the ones before it by their components.
  have parents := ensureAll_paver dir (Path.components dir).reverse.tail
    (reversed ▸ List.dropLast_prefix _)
  rw [reversed] at parents
  have reached : ∀ tree : FileTree, tree.HasParent dir →
      (Path.components dir).reverse.tail = [] ∨ tree.isDirectory (Path.ofComponents
        (Path.isAbsolute dir.toList) (Path.components dir).dropLast) = true := by
    intro tree h
    by_cases hne : (Path.components dir).dropLast = []
    · exact .inl (by simpa [List.tail_reverse] using hne)
    · exact .inr (isDirectory_dropLast h hne)
  have paver := parents.ensure reached fun _ _ => onTheWay_of_follow
  rw [ensured]
  exact
    { paves := paver.paves
      done := fun h => paver.done (h.resolve_left he)
      ok := fun h => .inr (paver.ok h)
      stuck := paver.stuck }

end WideColumn.FileTree
