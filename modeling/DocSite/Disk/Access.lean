import DocSite.Disk.Basic

/-!
# Reading and writing files

* `isDirectory` and `isThere` ask what a path leads to.
* `readText` reads a file, `write` makes or replaces one, `create` adds an entry to a directory, and
  `makeDirectories` makes the directories of a path that are missing.
-/

namespace DocSite

/-- The text of a file's content. -/
def FileTree.textOf (content : ByteArray) : Except PathFault String :=
  match String.fromUTF8? content with
  | some s => .ok s
  | none => .error .invalidText

namespace Disk

/-- Whether a path leads to a directory. -/
def isDirectory (d : Disk) (path : Bytes) : Bool :=
  match d.resolve path with
  | .ok (.directory _) => true
  | _ => false

/-- Whether a path leads to anything. -/
def isThere (d : Disk) (path : Bytes) : Bool :=
  match d.resolve path with
  | .ok _ => true
  | .error _ => false

/-- The text of the file that a path leads to. -/
def readText (d : Disk) (path : Bytes) : Except PathFault String := do
  match ← d.resolve path with
  | .file content => FileTree.textOf content
  | _ => throw .isDirectory

/-- The disk with something put at a location. -/
def put (d : Disk) (location : List Bytes) (new : FileTree) : Disk :=
  { d with tree := FileTree.insert new location d.tree }

/-- The disk after a file is written. It is made where a path leads to a free name. -/
def write (d : Disk) (path : Bytes) (content : ByteArray) : Except PathFault Disk := do
  match ← d.locate path true with
  | .free parent name => return d.put (parent ++ [name]) (.file content)
  | .found location =>
    match d.tree.get? location with
    | some (.directory _) => throw .isDirectory
    | _ => return d.put location (.file content)

/-- The disk after a text is written to a file. -/
def writeText (d : Disk) (path : Bytes) (text : String) : Except PathFault Disk :=
  d.write path text.toUTF8

/-- The disk after one entry is added to a directory that lacks it. -/
def create (d : Disk) (path : Bytes) (new : FileTree) : Except PathFault Disk := do
  match ← d.locate path false with
  | .free parent name => return d.put (parent ++ [name]) new
  | .found _ => throw .alreadyExists

/-- The disk after a directory is made, unless there is one. -/
def makeDirectory (d : Disk) (path : Bytes) : Except PathFault Disk :=
  match d.create path .empty with
  | .ok made => .ok made
  | .error fault => if fault ≠ .notFound && d.isDirectory path then .ok d else .error fault

/-- The disk after the directories of a path are made, given where it starts and its names from the
last to the first. A directory is tried before those above it. -/
def makeDirectoriesOf (d : Disk) (start : Bytes) : List Bytes → Except PathFault Disk
  | [] => .ok d
  | name :: above =>
    let path := start ++ [Path.slash].intercalate (name :: above).reverse
    match d.makeDirectory path with
    | .error .notFound =>
      if above.isEmpty then .error .notFound
      else (makeDirectoriesOf d start above).bind fun d => d.makeDirectory path
    | r => r

/-- The disk after the directories of a path that are missing are made. -/
def makeDirectories (d : Disk) (path : Bytes) : Except PathFault Disk :=
  makeDirectoriesOf d (if Path.isAbsolute path then "/" else "") (Path.names path).reverse

end Disk

end DocSite
