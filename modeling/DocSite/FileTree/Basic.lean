import DocSite.Entries
import DocSite.Error
import DocSite.Text.Bytes

/-!
# File trees

A name is a list of bytes, which need not be those of a text.

* `FileTree` is a file, a symbolic link or a directory. The entries of a directory are in no order,
  and of two entries with one name the first counts. Devices, pipes and sockets are left out, and so
  is what a file system keeps about a file besides its content: its owner, permissions and times.
* `get?` is what stands below a directory at the given names, and `insert` puts something there.
* `walk` goes through a directory and meets its regular files, with the names on the way to them. At
  every level the entries come in the order of their names, and links are not followed. A directory
  that cannot be listed is met itself, with the fault, instead of what is below it.
-/

namespace DocSite

/-- What stands at a place of a file system. -/
inductive FileTree where
  | file (content : ByteArray)
  | link (target : Bytes)
  | directory (entries : List (Bytes × FileTree))

namespace FileTree

/-- A directory without entries. -/
def empty : FileTree :=
  directory []

/-- The entry of a directory with a name. -/
def child? (name : Bytes) : FileTree → Option FileTree
  | directory entries => entries.lookup name
  | _ => none

/-- What stands below a directory. -/
def get? : List Bytes → FileTree → Option FileTree
  | [], t => some t
  | name :: rest, t => (t.child? name).bind (get? rest)

/-- A directory with something put below it. Directories that are missing on the way are made. -/
def insert (new : FileTree) : List Bytes → FileTree → FileTree
  | [], _ => new
  | name :: rest, directory entries =>
    directory (Entries.set name (insert new rest ((entries.lookup name).getD empty)) entries)
  | _ :: _, t => t

/-! ### Walking -/

/-- What is met on a walk: a file, or a directory that cannot be listed. -/
inductive Met where
  | file (content : ByteArray)
  | unlisted (fault : PathFault)

mutual

/-- What is met below a directory, in the order of the walk, given why the directories at some names
cannot be listed. -/
def walk (fault? : List Bytes → Option PathFault) : FileTree → List (List Bytes × Met)
  | file content => [([], .file content)]
  | link _ => []
  | directory entries =>
    match fault? [] with
    | some fault => [([], .unlisted fault)]
    | none =>
      ((walkEntries fault? entries).mergeSort fun a b => a.1 ≤ b.1).flatMap fun (name, met) =>
        met.map fun (path, m) => (name :: path, m)

/-- What is met at and below each entry of a directory. -/
def walkEntries (fault? : List Bytes → Option PathFault) :
    List (Bytes × FileTree) → List (Bytes × List (List Bytes × Met))
  | [] => []
  | (name, t) :: rest =>
    (name, walk (fun names => fault? (name :: names)) t) :: walkEntries fault? rest

end

end FileTree

end DocSite
