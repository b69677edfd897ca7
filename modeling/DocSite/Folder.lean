import DocSite.Catalog.Collect
import DocSite.Disk.Access
import DocSite.FrontMatter.Fields
import DocSite.Markdown.Render

/-!
# Folders of pages

A folder is a source: each file below it with the extension `md` or `mdx` is one record.

* `Folder.found` are those files, in the order of the walk, and the directories that cannot be
  listed; links below the folder are not followed.
* `Folder.record` reads a file: its id is its path below the folder, and its slug, unless the front
  matter sets one, that path without the extension. An id is a text, so bytes of a name that are
  those of no character are replaced in it, and files with different names may have one id.
* `Folder.records` reads all of them, or answers the first fault. `Folder.recordsWith` does so where
  the system refuses to open some files or directories, as it does for want of a permission. A
  directory is listed whole or cannot be listed, and nothing changes on the disk meanwhile.
-/

namespace DocSite

namespace Folder

/-- The extensions of pages. -/
def extensions : List String :=
  ["md", "mdx"]

/-- A list cut at the last place of a separator. -/
def cutLast {α : Type} [BEq α] (separator : α) (s : List α) : Option (List α × List α) :=
  let after := (s.reverse.takeWhile (· != separator)).reverse
  if after.length < s.length then some (s.take (s.length - after.length - 1), after) else none

/-- Whether a file's name is that of a page: something, a dot and one of the extensions. -/
def isPageName (name : Bytes) : Bool :=
  match cutLast 0x2e name with
  | some (stem, extension) => !stem.isEmpty && extensions.any fun e => Text.utf8 e == extension
  | none => false

/-- An id without its extension. -/
def withoutExtension (id : String) : String :=
  match cutLast '.' id.toList with
  | some (stem, extension) =>
    if extensions.contains (String.ofList extension) then String.ofList stem else id
  | none => id

/-- The path of what stands at some names below the folder `root`. -/
def path (root : Bytes) (names : List Bytes) : Bytes :=
  names.foldl Path.join root

/-- Why what stands at some names below the folder `root` cannot be opened: its path is too long, or
the system refuses it. -/
def openFault? (refuses : List Bytes → Option PathFault) (root : Bytes) (names : List Bytes) :
    Option PathFault :=
  if Path.maxLength < (path root names).length then some .nameTooLong else refuses names

/-- What is read on a walk or stops it: the files of pages and the directories that cannot be
listed, with the names on the way to them. -/
def found (fault? : List Bytes → Option PathFault) (t : FileTree) :
    List (List Bytes × FileTree.Met) :=
  (t.walk fault?).filter fun (names, met) =>
    match met with
    | .file _ => names.getLast?.any isPageName
    | .unlisted _ => true

/-- The id of a page: its path below the folder. -/
def pageId (names : List Bytes) : String :=
  "/".intercalate (names.map Text.lossy)

/-- The record of a page's text, given a reader of front matter. -/
def recordOf (read : List Char → Except FrontMatterFault FrontMatter) (id content : String) :
    Except SiteError RawRecord :=
  match FrontMatter.readWith read content.toList with
  | .error fault => .error (.frontMatter (some id) fault)
  | .ok (fields, body) =>
    let page := render (String.ofList body)
    .ok {
      id := some id
      slug := some (fields.slug.getD (withoutExtension id))
      title := fields.title
      description := fields.description
      tags := fields.tags
      category := fields.category
      draft := fields.draft
      date := fields.date
      body := some page.text
      headings := page.headings }

/-- The record of a file of the folder `root`. -/
def record (read : List Char → Except FrontMatterFault FrontMatter)
    (refuses : List Bytes → Option PathFault) (root : Bytes) (names : List Bytes)
    (content : ByteArray) : Except SiteError RawRecord :=
  match openFault? refuses root names with
  | some fault => .error (.source (.cannotRead (Text.lossy (path root names)) fault))
  | none =>
    match FileTree.textOf content with
    | .error fault => .error (.source (.cannotRead (Text.lossy (path root names)) fault))
    | .ok text => recordOf read (pageId names) text

/-- The record of what is met below the folder `root`. -/
def recordMet (read : List Char → Except FrontMatterFault FrontMatter)
    (refuses : List Bytes → Option PathFault) (root : Bytes) :
    List Bytes × FileTree.Met → Except SiteError RawRecord
  | (names, .file content) => record read refuses root names content
  | (names, .unlisted fault) =>
    .error (.source (.cannotWalk (Text.lossy root) (Text.lossy (path root names)) fault))

/-- The records of the folder `root` on a disk, given a reader of front matter and what the system
refuses to open below the folder. -/
def recordsWith (read : List Char → Except FrontMatterFault FrontMatter)
    (refuses : List Bytes → Option PathFault) (d : Disk) (root : Bytes) : Fetched :=
  match d.resolve root with
  | .ok (.directory entries) =>
    (found (openFault? refuses root) (.directory entries)).mapM (recordMet read refuses root)
  | _ => .error (.source (.noDirectory (Text.lossy root)))

/-- The records of the folder `root` on a disk where everything can be opened. -/
def records (d : Disk) (root : Bytes) : Fetched :=
  recordsWith FrontMatter.ofText (fun _ => none) d root

end Folder

end DocSite
