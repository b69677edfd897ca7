import DocSite.Disk.Access
import DocSite.Settings.Toml
import DocSite.Text.Quoted

/-!
# Stored settings

* `Settings.load` reads the settings of a file and refuses those that have a fault.
* `Settings.loadHome` reads the settings below a home directory; where there are none, the defaults
  hold.
* `Settings.store` writes the defaults below a home directory.
-/

namespace DocSite.Settings

/-- The settings of the file at a path. -/
def load (d : Disk) (path : String) : Except SiteError Settings :=
  match d.readText path with
  | .error fault => .error (.file (Text.quote path) fault)
  | .ok text =>
    match readToml? text with
    | none => .error (.settings (.malformed path))
    | some s => s.validate.mapError .settings

/-- The directory of settings below a home directory. -/
def homeDirectory (home : String) : String :=
  Text.lossy (Path.join home ".docrank")

/-- The file of settings below a home directory. -/
def homeFile (home : String) : String :=
  Text.lossy (Path.join (homeDirectory home) "docrank.toml")

/-- The settings below a home directory. -/
def loadHome (d : Disk) (home : String) : Except SiteError Settings :=
  if d.isThere (homeFile home) then load d (homeFile home) else .ok {}

/-- The document of the default settings. -/
def defaultText : String :=
  (toml? {}).getD ""

/-- The disk after the default settings are written below a home directory. -/
def store (d : Disk) (home : String) : Except SiteError Disk := do
  let made ← (d.makeDirectories (homeDirectory home)).mapError
    (.file (Text.quote (homeDirectory home)))
  (made.writeText (homeFile home) defaultText).mapError (.file (Text.quote (homeFile home)))

end DocSite.Settings
