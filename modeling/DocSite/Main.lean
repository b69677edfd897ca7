import DocSite.Program

/-!
# The command line

* `main` copies the settings file and the content directory of an invocation to a `Disk`, runs the
  invocation on it and prints what it answers. What the system refuses to open ends the process.
-/

namespace DocSite.Main

/-- What stands at an entry of a directory. Links and special files below it are left out. -/
partial def treeOf (entry : IO.FS.DirEntry) : IO FileTree := do
  if ← entry.path.isDir then
    let mut found := []
    for e in ← entry.path.readDir do
      match (← e.path.symlinkMetadata).type with
      | .dir => found := (Text.utf8 e.fileName, ← treeOf e) :: found
      | .file => found := (Text.utf8 e.fileName, ← treeOf e) :: found
      | _ => pure ()
    return .directory found
  else
    return .file (← IO.FS.readBinFile entry.path)

/-- The disk with something put where a path leads. Directories on the way are made. -/
def mount (d : Disk) (path : String) (new : FileTree) : Disk :=
  let walk := fun (d, location) name =>
    if name = Text.utf8 "." then (d, location)
    else if name = Text.utf8 ".." then (d, location.dropLast)
    else
      let location := location ++ [name]
      (if (d.tree.get? location).isSome then d else Disk.put d location .empty, location)
  let (d, location) := (Path.names path).foldl walk (d, d.start path)
  d.put location new

/-- The disk with what stands at a path of the file system, if anything does. -/
def copy (d : Disk) (path : String) : IO Disk := do
  let entry : IO.FS.DirEntry := ⟨← IO.currentDir, path⟩
  if ← entry.path.pathExists then return mount d path (← treeOf entry) else return d

/-- The part of the file system that an invocation needs. -/
def diskFor (i : Invocation) (environment : String → Option String) : IO Disk := do
  let here := (← IO.currentDir).toString
  let bare : Disk := { mount ⟨.empty, []⟩ here .empty with here := Path.names here }
  let file := match i.settingsFile, homeOf environment with
    | some path, _ => path
    | none, .ok home => Settings.homeFile home
    | none, .error _ => ""
  let d ← if file.isEmpty then pure bare else copy bare file
  match i.settings environment d with
  | .ok s => if s.content.dir.isEmpty then return d else copy d s.content.dir
  | .error _ => return d

/-- Writes the default settings to the file system. -/
def writeSettings (environment : String → Option String) : IO Unit := do
  if let .ok home := homeOf environment then
    IO.FS.createDirAll (Settings.homeDirectory home)
    IO.FS.writeFile (Settings.homeFile home) Settings.defaultText

/-- Prints the result of a run and gives its exit code. -/
def report : Except Failure String → IO UInt32
  | .ok text => do
    IO.print text
    return 0
  | .error failure => do
    IO.print failure.output
    if failure.output.isEmpty then IO.eprintln ("Error: " ++ failure.message)
    return failure.exitCode.toUInt32

/-- Runs the command line of the process. -/
def run (args : List String) : IO UInt32 := do
  let names := ["HOME", "DOCRANK_CONFIG", "DOCRANK_CONTENT_DIR"]
  let found ← names.filterMapM fun name => do return (← IO.getEnv name).map (name, ·)
  let environment := fun name => found.lookup name
  match Invocation.ofArguments environment args with
  | .error h => report (.error (.halt h))
  | .ok i =>
    if i.command = .storeSettings then writeSettings environment
    report (i.run environment (← diskFor i environment)).result

end DocSite.Main

/-- Runs the command line of the process. -/
def main (args : List String) : IO UInt32 :=
  DocSite.Main.run args
