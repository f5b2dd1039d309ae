import WideColumn.Disk.Path

/-!
# File trees

A file tree holds files and directories by their location, and has a working directory, where
relative paths begin. The root is always a directory. A request that the system refuses leaves the
tree as it was. Beside what they hold, files and directories have a mode, which says who may use
them, and an order by their last change.

A path is followed name by name. Every name on the way has to be in a directory, and two dots lead
to the directory above, which at the root is the root.

Main definitions: `FileTree`, `FileTree.node?`, `FileTree.set`, `FileTree.status`,
`FileTree.writeFile`, `FileTree.makeDirectory`, `FileTree.standard`.
-/

namespace WideColumn

/-- The names that lead from the root to a file or a directory, the last first. -/
abbrev Location := List String

/-- What is at a location. -/
inductive Node where
  | file (content : String)
  | directory
  deriving DecidableEq

/-- The files and directories of a system. -/
structure FileTree where
  nodes : List (Location × Node)
  workingDirectory : Location
  /-- The modes that were set. -/
  modes : List (Location × Nat) := []
  /-- The locations that were changed, the last change first. -/
  changes : List Location := []
  deriving DecidableEq

namespace FileTree

/-- What is at a location, if anything is. -/
def node? (tree : FileTree) (location : Location) : Option Node :=
  if location = [] then some .directory else tree.nodes.lookup location

/-- Puts a node at a location, in place of what was there. -/
def setIn (location : Location) (node : Node) : List (Location × Node) → List (Location × Node)
  | [] => [(location, node)]
  | (l, n) :: rest =>
    if l = location then (l, node) :: rest else (l, n) :: setIn location node rest

/-- The tree with a node at a location. -/
def set (tree : FileTree) (location : Location) (node : Node) : FileTree :=
  { tree with
    nodes := setIn location node tree.nodes
    changes := location :: tree.changes.filter (· ≠ location) }

/-- The tree without a location and all below it. -/
def erase (tree : FileTree) (location : Location) : FileTree :=
  { tree with
    nodes := tree.nodes.filter fun (l, _) => !location.isSuffixOf l
    modes := tree.modes.filter fun (l, _) => !location.isSuffixOf l
    changes := tree.changes.filter fun l => !location.isSuffixOf l }

theorem lookup_setIn (location other : Location) (node : Node) (nodes : List (Location × Node)) :
    (setIn location node nodes).lookup other =
      if other = location then some node else nodes.lookup other := by
  induction nodes with
  | nil =>
    by_cases h : other = location
    · simp [setIn, h]
    · simp [setIn, h, List.lookup_cons, beq_eq_false_iff_ne.2 h]
  | cons entry rest ih =>
    obtain ⟨l, n⟩ := entry
    by_cases hl : l = location
    · subst hl
      by_cases h : other = l
      · simp [setIn, h]
      · simp [setIn, h, List.lookup_cons, beq_eq_false_iff_ne.2 h]
    · by_cases h : other = l
      · subst h
        simp [setIn, hl]
      · simp [setIn, hl, ih, List.lookup_cons, beq_eq_false_iff_ne.2 h]

theorem node?_set (tree : FileTree) {location : Location} (other : Location) (node : Node)
    (h : location ≠ []) :
    (tree.set location node).node? other =
      if other = location then some node else tree.node? other := by
  by_cases ho : other = []
  · subst ho
    simp [node?, Ne.symm h]
  · simp [node?, set, ho, lookup_setIn]

/-! ## Following paths -/

/-- Goes from a directory by one name. -/
def step (tree : FileTree) (location : Location) (name : String) : Except SystemError Location :=
  if tree.node? location ≠ some .directory then .error .notADirectory
  else if name = "." then .ok location
  else if name = ".." then .ok location.tail
  else if name.utf8ByteSize > Path.maxNameBytes then .error .nameTooLong
  else if (tree.node? (name :: location)).isNone then .error .noSuchFile
  else .ok (name :: location)

/-- Goes from a directory by several names. -/
def walk (tree : FileTree) (location : Location) (names : List String) :
    Except SystemError Location :=
  names.foldlM tree.step location

/-- Where a route begins. -/
def start (tree : FileTree) (route : Path.Route) : Location :=
  if route.isAbsolute then [] else tree.workingDirectory

/-- Where a path leads, and what is there. -/
def status (tree : FileTree) (path : String) : Except SystemError (Location × Node) := do
  let route ← Path.route? path
  let location ← tree.walk (tree.start route) route.names
  match tree.node? location with
  | none => throw .noSuchFile
  | some node =>
    if route.needsDirectory && node ≠ .directory then throw .notADirectory
    return (location, node)

/-- The path leads to a file or a directory. -/
def isPresent (tree : FileTree) (path : String) : Bool := (tree.status path).isOk

/-- The path leads to a directory. -/
def isDirectory (tree : FileTree) (path : String) : Bool :=
  match tree.status path with
  | .ok (_, .directory) => true
  | _ => false

/-- The last name of a route, if it names an entry of a directory. -/
def entryName? (route : Path.Route) : Option String :=
  match route.names.getLast? with
  | some name => if name = "." || name = ".." then none else some name
  | none => none

/-- The directory in which the last name of a route is an entry. -/
def parent (tree : FileTree) (route : Path.Route) : Except SystemError Location := do
  let location ← tree.walk (tree.start route) route.names.dropLast
  if tree.node? location ≠ some .directory then throw .notADirectory
  return location

/-! ## Requests -/

/-- The text of a file. -/
def readFile (tree : FileTree) (path : String) : Except SystemError String :=
  match tree.status path with
  | .ok (_, .file content) => .ok content
  | .ok (_, .directory) => .error .isADirectory
  | .error e => .error e

/-- Gives a file a text, and makes the file if it does not exist. -/
def writeFile (tree : FileTree) (path content : String) : Except SystemError FileTree := do
  let route ← Path.route? path
  let directory ← tree.parent route
  match entryName? route with
  | none => throw .isADirectory
  | some name =>
    if route.needsDirectory then throw .isADirectory
    if name.utf8ByteSize > Path.maxNameBytes then throw .nameTooLong
    if tree.node? (name :: directory) = some .directory then throw .isADirectory
    return tree.set (name :: directory) (.file content)

/-- Makes one directory. -/
def makeDirectory (tree : FileTree) (path : String) : Except SystemError FileTree := do
  let route ← Path.route? path
  let directory ← tree.parent route
  match entryName? route with
  | none => throw .fileExists
  | some name =>
    if name.utf8ByteSize > Path.maxNameBytes then throw .nameTooLong
    if (tree.node? (name :: directory)).isSome then throw .fileExists
    return tree.set (name :: directory) .directory

/-- Removes a file. -/
def removeFile (tree : FileTree) (path : String) : Except SystemError FileTree := do
  match ← tree.status path with
  | (_, .directory) => throw .isADirectory
  | (location, .file _) => return tree.erase location

/-- The names in a directory. -/
def entries (tree : FileTree) (path : String) : Except SystemError (List String) := do
  match ← tree.status path with
  | (_, .file _) => throw .notADirectory
  | (directory, .directory) =>
    return tree.nodes.filterMap fun (location, _) =>
      if location.tail = directory && location ≠ [] then location.head? else none

/-- Removes a directory that is empty. -/
def removeDirectory (tree : FileTree) (path : String) : Except SystemError FileTree := do
  let entries ← tree.entries path
  if !entries.isEmpty then throw .directoryNotEmpty
  let (location, _) ← tree.status path
  return tree.erase location

/-- Removes a file, or a directory with all below it. -/
def removeTree (tree : FileTree) (path : String) : Except SystemError FileTree := do
  let (location, _) ← tree.status path
  return tree.erase location

/-! ## Modes and changes -/

/-- Everyone may read a file, and its owner may write to it. -/
def fileMode : Nat := 0o644

/-- Everyone may read and enter a directory, or run a program, and its owner may change it. -/
def directoryMode : Nat := 0o755

/-- The mode at a location. -/
def mode (tree : FileTree) (location : Location) : Nat :=
  match tree.modes.lookup location, tree.node? location with
  | some mode, _ => mode
  | none, some .directory => directoryMode
  | none, _ => fileMode

/-- Sets the mode of a file or a directory. -/
def setMode (tree : FileTree) (path : String) (mode : Nat) : Except SystemError FileTree := do
  let (location, _) ← tree.status path
  return { tree with modes := (location, mode) :: tree.modes.filter (·.1 ≠ location) }

/-- How late a location was changed: a later change has a greater number. -/
def lastChange (tree : FileTree) (location : Location) : Nat :=
  tree.changes.length - tree.changes.idxOf location

/-- The absolute path of a location. -/
def pathOf (location : Location) : String := "/" ++ "/".intercalate location.reverse

/-! ## Making directories on the way -/

/-- Forgives an error if the directory is there after all. -/
def orPresent (path : String) (tree : FileTree) (e : SystemError) :
    Except SystemError Unit × FileTree :=
  if tree.isDirectory path then (.ok (), tree) else (.error e, tree)

/-- Makes a directory if it is not there, with what is missing on the way if `makeParents` can. The
tree keeps what was made even if the request fails in the end. -/
def ensure (path : String) (makeParents : FileTree → Except SystemError Unit × FileTree)
    (tree : FileTree) : Except SystemError Unit × FileTree :=
  match tree.makeDirectory path with
  | .ok tree => (.ok (), tree)
  | .error .noSuchFile =>
    match makeParents tree with
    | (.error e, tree) => (.error e, tree)
    | (.ok (), tree) =>
      match tree.makeDirectory path with
      | .ok tree => (.ok (), tree)
      | .error e => orPresent path tree e
  | .error e => orPresent path tree e

/-- Makes the directory with the given components, the last first, and those on the way to it. -/
def ensureAll (isAbsolute : Bool) : List String → FileTree → Except SystemError Unit × FileTree
  | [], tree => (.ok (), tree)
  | name :: outer, tree =>
    ensure (Path.ofComponents isAbsolute (name :: outer).reverse) (ensureAll isAbsolute outer) tree

/-- Makes a directory and those on the way to it, if they are not there. The empty path stands for
the working directory. -/
def createDirectories (path : String) (tree : FileTree) : Except SystemError Unit × FileTree :=
  if path.isEmpty then (.ok (), tree)
  else
    ensure path
      (ensureAll (Path.isAbsolute path.toList) (Path.components path).reverse.tail) tree

/-- The tree with a file at a path, and with the directories for it, as far as the path allows. -/
def plant (tree : FileTree) (path content : String) : FileTree :=
  let directory := Path.ofComponents (Path.isAbsolute path.toList) (Path.components path).dropLast
  let (_, tree) := tree.createDirectories directory
  (tree.writeFile path content).toOption.getD tree

/-! ## Every system -/

/-- The directories that every system has. -/
def standardDirectories : List String :=
  ["/bin", "/boot", "/dev", "/etc", "/home", "/lib", "/media", "/mnt", "/opt", "/proc", "/root",
    "/run", "/sbin", "/srv", "/sys", "/tmp", "/usr", "/usr/bin", "/usr/include", "/usr/lib",
    "/usr/local", "/usr/local/bin", "/usr/local/lib", "/usr/local/share", "/usr/sbin",
    "/usr/share", "/var", "/var/lib", "/var/log", "/var/tmp"]

/-- Some programs that every system has. -/
def standardPrograms : List String :=
  ["/usr/bin/", "/bin/"].flatMap fun directory =>
    ["[", "chmod", "false", "grep", "rm", "sed", "test", "true"].map (directory ++ ·)

/-- Some files that every system has. -/
def standardFiles : List (String × String) :=
  standardPrograms.map (·, "") ++
  [("/dev/null", ""), ("/dev/stdin", ""), ("/dev/zero", ""), ("/dev/tty", ""),
    ("/etc/group", "root:x:0:\n"),
    ("/etc/hostname", "host\n"), ("/etc/hosts", "127.0.0.1\tlocalhost\n"),
    ("/etc/passwd", "root:x:0:0:root:/root:/bin/sh\n")]

/-- A system without files but those that every system has, with a directory to work in. -/
def standard (workingDirectory : String) : FileTree :=
  let withDirectory (tree : FileTree) (path : String) : FileTree := (tree.createDirectories path).2
  let root : FileTree := ⟨[], [], [], []⟩
  let tree := (standardDirectories ++ [workingDirectory]).foldl withDirectory root
  let tree := standardFiles.foldl (fun tree (path, content) => tree.plant path content) tree
  let locationOf (path : String) : Location := (Path.names path.toList).reverse
  { tree with
    workingDirectory := locationOf workingDirectory
    modes := standardPrograms.map fun path => (locationOf path, directoryMode)
    changes := [] }

/-! ## Listing -/

/-- The path of a location from a directory above it. -/
def relative (directory location : Location) : String :=
  "/".intercalate (location.take (location.length - directory.length)).reverse

/-- Everything below a directory: relative paths with the text of files, and directories without
text. -/
def below (tree : FileTree) (directory : Location) : List (String × Option String) :=
  tree.nodes.filterMap fun (location, node) =>
    if directory.isSuffixOf location && location ≠ directory then
      match node with
      | .file content => some (relative directory location, some content)
      | .directory => some (relative directory location, none)
    else none

end FileTree

end WideColumn
