import AddressIntake.Files.Directions

namespace AddressIntake

/-- Where something is: the names from the folder of the tree to it. Two dots at the front lead out
of that folder, and a slash at the front is the root. -/
abbrev Place := List String

namespace Place

/-- The root of all folders. -/
def root : Place := ["/"]

/-- The folder around a place. The root lies in itself. -/
def parent (place : Place) : Place :=
  if place == root then root
  else if place.all (· == Directions.around) then place ++ [Directions.around]
  else place.dropLast

/-- Whether a place is the root, the folder of the tree, or a folder around that one. -/
def isFixed (place : Place) : Bool :=
  place == root || place.all (· == Directions.around)

end Place

/-- What is found at a place. -/
inductive FileNode where
  | folder
  | file (content : Document)

/-- The files and folders below one folder. -/
structure FileTree where
  entries : List (Place × FileNode)

namespace FileTree

/-- The tree without files and folders. -/
def empty : FileTree := ⟨[]⟩

/-- What is at a place. -/
def node? (tree : FileTree) (place : Place) : Option FileNode :=
  if place.isFixed then some .folder else tree.entries.lookup place

/-- The tree with something put at a place. -/
def put (tree : FileTree) (place : Place) (node : FileNode) : FileTree :=
  ⟨tree.entries.filter (·.1 != place) ++ [(place, node)]⟩

/-- The tree without what is at a place. -/
def remove (tree : FileTree) (place : Place) : FileTree :=
  ⟨tree.entries.filter (·.1 != place)⟩

/-- The greatest number of bytes in a name. -/
def maxNameLength : Nat := 255

/-- What a folder holds under a name. -/
def lookup (tree : FileTree) (folder : Place) (name : String) :
    Except FileError (Option FileNode) :=
  if maxNameLength < name.utf8ByteSize then .error .nameTooLong
  else .ok (tree.node? (folder ++ [name]))

/-- The folder that a step leads to from a folder. -/
def enter (tree : FileTree) (folder : Place) (step : String) : Except FileError Place :=
  if step == Directions.here then .ok folder
  else if step == Directions.around then .ok folder.parent
  else
    match tree.lookup folder step with
    | .error e => .error e
    | .ok none => .error .notFound
    | .ok (some (.file _)) => .error .notFolder
    | .ok (some .folder) => .ok (folder ++ [step])

/-- Where directions end. -/
inductive Goal where
  /-- At a folder that is there. -/
  | folder (place : Place)
  /-- At a name in a folder, whether there is something under it or not. -/
  | named (folder : Place) (name : String)

/-- The goal of directions, all of whose steps but the last one lead to folders. -/
def goal (tree : FileTree) (directions : Directions) : Except FileError Goal := do
  let start : Place := if directions.rooted then Place.root else []
  let folder ← directions.steps.dropLast.foldlM tree.enter start
  match directions.steps.getLast? with
  | none => return .folder folder
  | some last =>
    if last == Directions.here || last == Directions.around then
      return .folder (← tree.enter folder last)
    else return .named folder last

/-- What directions lead to. -/
def find (tree : FileTree) (directions : Directions) : Except FileError (Option FileNode) := do
  match ← tree.goal directions with
  | .folder _ => return some .folder
  | .named folder name =>
    match ← tree.lookup folder name with
    | some (.file content) =>
      if directions.toFolder then throw .notFolder else return some (.file content)
    | node => return node

/-- Whether directions lead to a folder. -/
def isFolder (tree : FileTree) (directions : Directions) : Bool :=
  match tree.find directions with
  | .ok (some .folder) => true
  | _ => false

/-- The content of a file. -/
def read (tree : FileTree) (directions : Directions) : Except FileError Document := do
  match ← tree.find directions with
  | some (.file content) => return content
  | some .folder => throw .isFolder
  | none => throw .notFound

/-- The place where directions lead to a file or to nothing. -/
def placeForFile (tree : FileTree) (directions : Directions) : Except FileError Place := do
  match ← tree.goal directions with
  | .folder _ => throw .isFolder
  | .named folder name =>
    if directions.toFolder then throw .isFolder
    else
      match ← tree.lookup folder name with
      | some .folder => throw .isFolder
      | _ => return folder ++ [name]

/-- The tree after writing a file. -/
def write (tree : FileTree) (directions : Directions) (content : Document) :
    Except FileError FileTree := do
  return tree.put (← tree.placeForFile directions) (.file content)

/-- The tree after renaming a file. -/
def rename (tree : FileTree) (source target : Directions) : Except FileError FileTree := do
  let content ← tree.read source
  let old ← tree.placeForFile source
  let new ← tree.placeForFile target
  return (tree.remove old).put new (.file content)

/-- The tree after making a folder in a folder that is there. -/
def makeFolder (tree : FileTree) (directions : Directions) : Except FileError FileTree := do
  match ← tree.goal directions with
  | .folder _ => throw .alreadyThere
  | .named folder name =>
    match ← tree.lookup folder name with
    | some _ => throw .alreadyThere
    | none => return tree.put (folder ++ [name]) .folder

/-- The answer of a change, and the tree afterwards. -/
def changed (tree : FileTree) : Except FileError FileTree → Except FileError Unit × FileTree
  | .ok after => (.ok (), after)
  | .error e => (.error e, tree)

/-- Makes a folder, or accepts the one that is there. -/
def ensureFolder (tree : FileTree) (directions : Directions) :
    Except FileError Unit × FileTree :=
  match tree.makeFolder directions with
  | .ok after => (.ok (), after)
  | .error e => (if tree.isFolder directions then .ok () else .error e, tree)

/-- Makes a folder and, as far as it lies in nothing, first the folders around it, of which the
nearest one is given first. Folders that were made stay even if a later one cannot be made. -/
def ensureFolders (tree : FileTree) (directions : Directions) :
    List Directions → Except FileError Unit × FileTree
  | [] => tree.ensureFolder directions
  | outer :: rest =>
    match tree.ensureFolder directions with
    | (.error .notFound, _) =>
      match tree.ensureFolders outer rest with
      | (.ok (), after) => after.ensureFolder directions
      | failed => failed
    | done => done

/-- Makes the folder that a path names. The empty path names the folder of the tree. -/
def makeFolders (tree : FileTree) (path : String) : Except FileError Unit × FileTree :=
  if path.isEmpty then (.ok (), tree)
  else
    match Directions.ofText path with
    | .error e => (.error e, tree)
    | .ok directions => tree.ensureFolders directions directions.ancestors

/-- The names in a folder. -/
def names (tree : FileTree) (folder : Place) : List String :=
  tree.entries.filterMap fun entry =>
    if entry.1.dropLast == folder then entry.1.getLast? else none

/-- The answer to a request and the tree afterwards, as on a disk without faults. -/
def respond (r : FileRequest) (tree : FileTree) : r.Answer × FileTree :=
  match r with
  | .present path =>
    (match (Directions.ofText path).bind tree.find with
      | .ok (some _) => true
      | _ => false, tree)
  | .read path => ((Directions.ofText path).bind tree.read, tree)
  | .write path content => tree.changed do tree.write (← Directions.ofText path) content
  | .rename source target =>
    tree.changed do tree.rename (← Directions.ofText source) (← Directions.ofText target)
  | .makeFolders path => tree.makeFolders path

/-- The tree as a way to answer requests. -/
def answer : Files (StateM FileTree) :=
  fun r => respond r

end FileTree

end AddressIntake
