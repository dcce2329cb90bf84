import ScreenScript.Disk.Content
import ScreenScript.Disk.Error

/-!
# Files and folders

A disk holds nodes at locations. A location is given by the names on the way up from it to the root,
so the folder around it is its tail and there are no aliases. A path leads to a location if every name
before the last one is that of a folder; there need not be anything at the location itself.

* `Disk.node?` — what is at a location
* `Disk.locate` — where a path leads
* `Disk.read`, `write`, `makeFolder`, `makeFolders`, `touch`, `exists?`, `list` — the operations
-/

namespace ScreenScript

/-- What is at a location. -/
inductive Node
  /-- a folder -/
  | folder
  /-- a file -/
  | file (content : Content)
  deriving DecidableEq, Repr, Inhabited

/-- A location: the names on the way up from it to the root. -/
abbrev Location := List Text

/-- Files and folders, and the folder where paths start that do not start at the root. -/
structure Disk where
  /-- the current folder -/
  here : Location := []
  /-- the nodes below the root; each location at most once -/
  nodes : List (Location × Node) := []
  deriving DecidableEq, Repr, Inhabited

namespace Disk

/-! ## Nodes -/

/-- The node at a location in a list of nodes. -/
def lookup? (location : Location) : List (Location × Node) → Option Node
  | [] => none
  | (place, node) :: rest => if place = location then some node else lookup? location rest

/-- The nodes with another one at a location. -/
def store (location : Location) (node : Node) : List (Location × Node) → List (Location × Node)
  | [] => [(location, node)]
  | (place, old) :: rest =>
    if place = location then (place, node) :: rest else (place, old) :: store location node rest

/-- The node at a location. The root is always a folder. -/
def node? (disk : Disk) : Location → Option Node
  | [] => some .folder
  | location => lookup? location disk.nodes

/-- The disk with a node at a location. -/
def put (disk : Disk) (location : Location) (node : Node) : Disk :=
  { disk with nodes := store location node disk.nodes }

theorem lookup?_store (location place : Location) (node : Node) (nodes : List (Location × Node)) :
    lookup? place (store location node nodes) =
      if place = location then some node else lookup? place nodes := by
  induction nodes with
  | nil => simp only [store, lookup?, eq_comm]
  | cons entry rest ih =>
    obtain ⟨at_, old⟩ := entry
    by_cases h : at_ = location
    · subst h
      by_cases hp : at_ = place
      · simp [store, lookup?, hp]
      · simp [store, lookup?, hp, Ne.symm hp]
    · by_cases hp : at_ = place
      · subst hp
        simp [store, lookup?, h]
      · simp only [store, if_neg h, lookup?, if_neg hp, ih]

/-- Putting a node somewhere changes nothing elsewhere. -/
theorem node?_put (disk : Disk) {location : Location} (place : Location) (node : Node)
    (h : location ≠ []) :
    (disk.put location node).node? place = if place = location then some node else disk.node? place := by
  cases place with
  | nil => simp [node?, Ne.symm h]
  | cons name up => simp [node?, put, lookup?_store]

/-! ## Ways -/

/-- The most octets of a name. -/
def maxName : Nat := 255

/-- The most octets of a path. -/
def maxPath : Nat := 4095

/-- Where the names on a way lead, from a location on. -/
def walk (disk : Disk) : Location → List Text → Except FileFault Location
  | location, [] => .ok location
  | location, name :: rest =>
    match disk.node? location with
    | none => .error .missing
    | some (.file _) => .error .notFolder
    | some .folder =>
      if name = "..".toList then walk disk location.tail rest
      else if maxName < (Utf8.encode name).length then .error .tooLong
      else walk disk (name :: location) rest

/-- Where a path leads. -/
def locate (disk : Disk) (path : Path) : Except FileFault Location :=
  if path.toText.elem '\x00' then .error .nullCharacter
  else if maxPath < (Utf8.encode path.toText).length then .error .tooLong
  else disk.walk (if path.start = .here then disk.here else []) path.names

/-- The names of the current folder, from the root on. -/
def hereNames (disk : Disk) : List Text := disk.here.reverse

/-! ## Operations -/

/-- Whether there is something where a path leads. Only a path that is too long leaves that open. -/
def exists? (disk : Disk) (path : Path) : Except FileError Bool :=
  match disk.locate path with
  | .ok location => .ok (disk.node? location).isSome
  | .error .tooLong => .error ⟨.tooLong, path⟩
  | .error _ => .ok false

/-- Whether there is a folder where a path leads. -/
def isFolder (disk : Disk) (path : Path) : Bool :=
  match disk.locate path with
  | .ok location => disk.node? location = some .folder
  | .error _ => false

/-- What the file holds that a path leads to. -/
def read (disk : Disk) (path : Path) : Except FileError Content :=
  match disk.locate path with
  | .error fault => .error ⟨fault, path⟩
  | .ok location =>
    match disk.node? location with
    | some (.file content) => .ok content
    | some .folder => .error ⟨.isFolder, path⟩
    | none => .error ⟨.missing, path⟩

/-- The disk on which the file that a path leads to holds this content. -/
def write (disk : Disk) (path : Path) (content : Content) : Except FileError Disk :=
  match disk.locate path with
  | .error fault => .error ⟨fault, path⟩
  | .ok location =>
    match disk.node? location with
    | some .folder => .error ⟨.isFolder, path⟩
    | _ => .ok (disk.put location (.file content))

/-- The disk on which there is something where the path leads; an empty file, if it is new. -/
def touch (disk : Disk) (path : Path) : Except FileError Disk :=
  match disk.locate path with
  | .error fault => .error ⟨fault, path⟩
  | .ok location =>
    match disk.node? location with
    | some _ => .ok disk
    | none => .ok (disk.put location (.file (.octets [])))

/-- The disk on which a file is where the path leads; it is empty if it is new. A folder is no file. -/
def openFile (disk : Disk) (path : Path) : Except FileError Disk :=
  if disk.isFolder path then .error ⟨.isFolder, path⟩ else disk.touch path

/-- The disk on which a folder is where the path leads. The folder around it has to be there. -/
def makeFolder (disk : Disk) (path : Path) : Except FileError Disk :=
  match disk.locate path with
  | .error fault => .error ⟨fault, path⟩
  | .ok location =>
    match disk.node? location with
    | some .folder => .ok disk
    | some (.file _) => .error ⟨.occupied, path⟩
    | none => .ok (disk.put location .folder)

/-- Makes a folder and, where it is missing, the folders around it; `up` are the names of the path, the
last one first. The folders that could be made stay, also if the last one could not. -/
def makeFoldersFrom (start : PathStart) : List Text → Disk → Except FileError Unit × Disk
  | [], disk =>
    match disk.makeFolder ⟨start, []⟩ with
    | .ok next => (.ok (), next)
    | .error error => (.error error, disk)
  | name :: up, disk =>
    let path : Path := ⟨start, (name :: up).reverse⟩
    match disk.makeFolder path with
    | .ok next => (.ok (), next)
    | .error error =>
      if error.fault = .missing then
        match makeFoldersFrom start up disk with
        | (.error error, next) => (.error error, next)
        | (.ok (), next) =>
          match next.makeFolder path with
          | .ok last => (.ok (), last)
          | .error error => (.error error, next)
      else
        (.error error, disk)

/-- Makes a folder and, where it is missing, the folders around it. -/
def makeFolders (disk : Disk) (path : Path) : Except FileError Unit × Disk :=
  makeFoldersFrom path.start path.names.reverse disk

/-- The names of what is in the folder that a path leads to; none if it leads to no folder. -/
def list (disk : Disk) (path : Path) : List Text :=
  if disk.isFolder path then
    match disk.locate path with
    | .ok location => disk.nodes.filterMap fun (place, _) =>
        match place with
        | name :: up => if up = location then some name else none
        | [] => none
    | .error _ => []
  else
    []

end Disk

end ScreenScript
