import DocSite.FileTree.Basic

/-!
# Paths on a disk

A path consists of names with slashes between them. It starts at a directory of the disk, or at the
root if it starts with a slash, and a link on it is replaced by its target. That a directory may not
be searched for want of a permission is left out.

* `Path.join` puts a name after a path, and `Path.steps` are the names of one.
* `Disk.locate` follows a path to a `Place`: something that is there, or a free name in a directory.
-/

namespace DocSite

namespace Path

/-- The byte between the names of a path. -/
def slash : UInt8 := 0x2f

/-- Whether a path starts at the root. -/
def isAbsolute (path : Bytes) : Bool :=
  path.head? == some slash

/-- Whether a slash ends a path. -/
def endsWithSlash (path : Bytes) : Bool :=
  path.getLast? == some slash

/-- A path and a name below it. A slash is put between them unless the path ends with one. -/
def join (path name : Bytes) : Bytes :=
  if path.isEmpty || endsWithSlash path then path ++ name else path ++ slash :: name

/-- The names of a path. -/
def names (path : Bytes) : List Bytes :=
  (path.splitOnP (· == slash)).filter (!·.isEmpty)

/-- The steps along a path. A slash at its end is one more step, which stays where it is. -/
def steps (path : Bytes) : List Bytes :=
  if endsWithSlash path then names path ++ [Text.utf8 "."] else names path

/-- How long a name may be, in bytes. -/
def maxNameLength : Nat := 255

/-- How long a path may be, in bytes. -/
def maxLength : Nat := 4095

/-- How many links may be followed along a path. -/
def maxLinks : Nat := 40

end Path

/-- A file tree and the names of the directory in it at which paths start. -/
structure Disk where
  tree : FileTree
  here : List Bytes := []

/-- Where a path leads: to something, or to a name that a directory lacks. The names on the way from
the root are those of no links. -/
inductive Place where
  | found (location : List Bytes)
  | free (parent : List Bytes) (name : Bytes)
deriving DecidableEq, Repr

namespace FileTree

/-- Takes steps from a directory, following at most `links` links. The last step is taken through a
link only if `follow` is set. -/
def takeSteps (t : FileTree) (follow : Bool) (links : Nat) (place : List Bytes) :
    List Bytes → Except PathFault Place
  | [] => .ok (.found place)
  | step :: rest =>
    if step = Text.utf8 "." then takeSteps t follow links place rest
    else if step = Text.utf8 ".." then takeSteps t follow links place.dropLast rest
    else if Path.maxNameLength < step.length then .error .nameTooLong
    else match (t.get? place).bind (child? step) with
      | none => if rest.isEmpty then .ok (.free place step) else .error .notFound
      | some (.directory _) => takeSteps t follow links (place ++ [step]) rest
      | some (.file _) =>
        if rest.isEmpty then .ok (.found (place ++ [step])) else .error .notDirectory
      | some (.link target) =>
        if rest.isEmpty && !follow then .ok (.found (place ++ [step]))
        else match links with
          | 0 => .error .tooManyLinks
          | links + 1 =>
            takeSteps t follow links (if Path.isAbsolute target then [] else place)
              (Path.steps target ++ rest)
termination_by steps => (links, steps.length)

end FileTree

namespace Disk

/-- Where a path starts. -/
def start (d : Disk) (path : Bytes) : List Bytes :=
  if Path.isAbsolute path then [] else d.here

/-- Follows a path. -/
def locate (d : Disk) (path : Bytes) (follow : Bool) : Except PathFault Place :=
  if path.contains 0 then .error .nulCharacter
  else if path.isEmpty then .error .notFound
  else if Path.maxLength < path.length then .error .nameTooLong
  else d.tree.takeSteps follow Path.maxLinks (d.start path) (Path.steps path)

/-- What a path leads to, through links. -/
def resolve (d : Disk) (path : Bytes) : Except PathFault FileTree := do
  match ← d.locate path true with
  | .free .. => throw .notFound
  | .found location =>
    match d.tree.get? location with
    | some found => return found
    | none => throw .notFound

end Disk

end DocSite
