import DocSite.Proofs.Disk.ReadBack
import DocSite.Proofs.Program.Pages
import DocSite.Proofs.Settings.RoundTrip

/-!
# Stored settings are loaded again

* `Settings.IsKeptIn`: a file with this text gives the settings, wherever it is written.
* `isKeptIn_of_readToml?`: so does each text that is read as valid settings.
* `isWritable_of_load` and `isWritable_of_settings`: settings that a file, a home directory or a
  command line gives can be written.
* `settings_survive_writing` puts these together for the settings that are loaded, printed or
  stored.
-/

namespace DocSite

namespace Settings

/-- A file with this text gives the settings, wherever it is written. -/
def IsKeptIn (s : Settings) (text : String) : Prop :=
  ∀ (d d' : Disk) (path : String), d.HasStart → d.writeText path text = .ok d' →
    load d' path = .ok s

theorem load_eq_ok_iff {d : Disk} {path : String} {s : Settings} :
    load d path = .ok s ↔ ∃ text, d.readText path = .ok text ∧ readToml? text = some s ∧
      s.validate = .ok s := by
  rw [load]
  cases hread : d.readText path with
  | error fault => simp
  | ok text =>
    cases hs : readToml? text with
    | none => simp [hs]
    | some t =>
      simp only [hs, mapError_eq_ok_iff]
      constructor
      · intro hvalid
        obtain ⟨-, rfl⟩ := validate_eq_ok_iff.mp hvalid
        exact ⟨text, rfl, hs, hvalid⟩
      · rintro ⟨text', htext, hs', hvalid⟩
        cases htext
        obtain rfl := Option.some.inj (hs.symm.trans hs')
        exact hvalid

/-- A file whose text is read as valid settings gives these settings. -/
theorem isKeptIn_of_readToml? {s : Settings} {text : String} (h : readToml? text = some s)
    (hvalid : s.validate = .ok s) : s.IsKeptIn text :=
  fun _ _ _ hstart hwrite =>
    load_eq_ok_iff.mpr ⟨text, hstart.readText_of_writeText hwrite, h, hvalid⟩

/-- Valid settings that can be written are kept in their text. -/
theorem exists_isKeptIn {s : Settings} (h : s.listing.IsWritable) (hvalid : s.validate = .ok s) :
    ∃ text, s.toml? = some text ∧ s.IsKeptIn text ∧ s.IsKeptIn (text ++ "\n") := by
  obtain ⟨text, htext, hread, hprinted⟩ := exists_toml h
  exact ⟨text, htext, isKeptIn_of_readToml? hread hvalid, isKeptIn_of_readToml? hprinted hvalid⟩

/-! ### Settings that can be written -/

theorem isWritable_of_load {d : Disk} {path : String} {s : Settings} (h : load d path = .ok s) :
    s.listing.IsWritable := by
  obtain ⟨text, -, hs, -⟩ := load_eq_ok_iff.mp h
  exact isWritable_of_readToml? hs

theorem isWritable_of_loadHome {d : Disk} {home : String} {s : Settings}
    (h : loadHome d home = .ok s) : s.listing.IsWritable := by
  rw [loadHome] at h
  split_ifs at h
  · exact isWritable_of_load h
  · cases h
    exact ListingSettings.isWritable_default

/-- The command line overrides no count. -/
theorem isWritable_of_settings {i : Invocation} {environment : String → Option String} {d : Disk}
    {s : Settings} (h : i.settings environment d = .ok s) : s.listing.IsWritable := by
  have hlisting : ∃ t : Settings, t.listing.IsWritable ∧ s.listing = t.listing := by
    rw [Invocation.settings] at h
    split at h
    · obtain ⟨t, ht, hvalid⟩ := bind_eq_ok_iff.mp h
      obtain ⟨-, rfl⟩ := validate_eq_ok_iff.mp (mapError_eq_ok_iff.mp hvalid)
      exact ⟨t, isWritable_of_load ht, rfl⟩
    · obtain ⟨t, ht, hvalid⟩ := bind_eq_ok_iff.mp h
      obtain ⟨home, -, ht⟩ := bind_eq_ok_iff.mp ht
      obtain ⟨-, rfl⟩ := validate_eq_ok_iff.mp (mapError_eq_ok_iff.mp hvalid)
      exact ⟨t, isWritable_of_loadHome ht, rfl⟩
  obtain ⟨t, ht, heq⟩ := hlisting
  exact heq ▸ ht

/-! ### The defaults -/

theorem toml?_default : ({} : Settings).toml? = some defaultText ∧
    ({} : Settings).IsKeptIn defaultText := by
  obtain ⟨text, htext, hkept, -⟩ := exists_isKeptIn (s := {}) ListingSettings.isWritable_default
    (by decide)
  have hdefault : defaultText = text := by
    rw [defaultText, htext, Option.getD_some]
  exact hdefault ▸ ⟨htext, hkept⟩

/-- The settings that are stored are the defaults. -/
theorem load_of_store {d d' : Disk} (h : d.HasStart) {home : String}
    (hstore : store d home = .ok d') : load d' (homeFile home) = .ok {} := by
  obtain ⟨made, hmade, hwrite⟩ := bind_eq_ok_iff.mp hstore
  have hstart : made.HasStart :=
    Disk.of_makeDirectoriesOf (fun h hcreate => h.create hcreate) h (mapError_eq_ok_iff.mp hmade)
  exact toml?_default.2 made d' _ hstart (mapError_eq_ok_iff.mp hwrite)

end Settings

/-! ### Runs -/

section Runs

variable {environment : String → Option String} {args : List String} {i : Invocation}
  (hi : Invocation.ofArguments environment args = .ok i) {d : Disk}
include hi

/-- A run that has settings prints their text. -/
theorem run_printSettings (hcommand : i.command = .printSettings) {s : Settings}
    (hs : i.settings environment d = .ok s) {text : String} (htext : s.toml? = some text) :
    (run environment args d).result = .ok (text ++ "\n") := by
  rw [result_run_eq_answer hi (hcommand ▸ Command.noConfusion), Invocation.answer]
  refine bind_eq_ok_iff.mpr ⟨s, mapError_eq_ok_iff.mpr hs, ?_⟩
  simp only [hcommand, if_true, htext]
  rfl

/-- A run that stores settings does so below the home directory. -/
theorem run_storeSettings_iff (hcommand : i.command = .storeSettings) {d' : Disk} {text : String} :
    run environment args d = ⟨d', .ok text⟩ ↔
      ∃ home, homeOf environment = .ok home ∧ Settings.store d home = .ok d' ∧
        text = "Config initialized at: " ++ Settings.homeFile home ++ "\n" := by
  have hstored : Invocation.storeSettings environment d = .ok (d', text) ↔
      ∃ home, homeOf environment = .ok home ∧ Settings.store d home = .ok d' ∧
        text = "Config initialized at: " ++ Settings.homeFile home ++ "\n" := by
    simp only [Invocation.storeSettings, bind_eq_ok_iff, pure, Except.pure, Except.ok.injEq,
      Prod.mk.injEq]
    constructor
    · rintro ⟨home, hhome, d', hstore, rfl, rfl⟩
      exact ⟨home, hhome, hstore, rfl⟩
    · rintro ⟨home, hhome, hstore, rfl⟩
      exact ⟨home, hhome, d', hstore, rfl, rfl⟩
  rw [← hstored, run, hi]
  simp only [Invocation.run, if_pos hcommand]
  cases Invocation.storeSettings environment d with
  | error e => simp
  | ok stored => simp [Prod.ext_iff]

end Runs

/-- **Settings survive being written.** Settings that are loaded have a text; a file with this text,
wherever it is written, gives the same settings, and it can be written where they were loaded from.
A run that prints settings prints such a text, with one more line end. The text of the defaults is
one too, and a run that stores the defaults leaves a file from which they are loaded. -/
theorem settings_survive_writing :
    (∀ d path s, Settings.load d path = .ok s →
        ∃ text, s.toml? = some text ∧ s.IsKeptIn text ∧ s.IsKeptIn (text ++ "\n") ∧
          (d.HasStart → ∃ d', d.writeText path text = .ok d' ∧ Settings.load d' path = .ok s)) ∧
      (∀ environment args i d s, Invocation.ofArguments environment args = .ok i →
        i.command = .printSettings → i.settings environment d = .ok s →
          ∃ text, s.toml? = some text ∧
            (run environment args d).result = .ok (text ++ "\n") ∧ s.IsKeptIn (text ++ "\n")) ∧
      (({} : Settings).toml? = some Settings.defaultText ∧
        ({} : Settings).IsKeptIn Settings.defaultText) ∧
      ∀ environment args i d text, Invocation.ofArguments environment args = .ok i →
        i.command = .storeSettings → d.HasStart → (run environment args d).result = .ok text →
          ∃ home, homeOf environment = .ok home ∧
            text = "Config initialized at: " ++ Settings.homeFile home ++ "\n" ∧
            Settings.load (run environment args d).disk (Settings.homeFile home) = .ok {} := by
  refine ⟨fun d path s hload => ?_, fun environment args i d s hi hcommand hs => ?_,
    Settings.toml?_default, fun environment args i d text hi hcommand hstart htext => ?_⟩
  · obtain ⟨source, hsource, -, hvalid⟩ := Settings.load_eq_ok_iff.mp hload
    obtain ⟨text, htext, hkept, hprinted⟩ :=
      Settings.exists_isKeptIn (Settings.isWritable_of_load hload) hvalid
    refine ⟨text, htext, hkept, hprinted, fun hstart => ?_⟩
    obtain ⟨d', hwrite⟩ := hstart.exists_writeText hsource text
    exact ⟨d', hwrite, hkept d d' path hstart hwrite⟩
  · obtain ⟨text, htext, -, hprinted⟩ :=
      Settings.exists_isKeptIn (Settings.isWritable_of_settings hs) (validate_settings hs)
    exact ⟨text, htext, run_printSettings hi hcommand hs htext, hprinted⟩
  · have hrun : run environment args d = ⟨(run environment args d).disk, .ok text⟩ := by
      rw [← htext]
    obtain ⟨home, hhome, hstore, rfl⟩ := (run_storeSettings_iff hi hcommand).mp hrun
    exact ⟨home, hhome, rfl, Settings.load_of_store hstart hstore⟩

/-! ### One disk -/

section Sample

/-- Settings whose texts need several kinds of quotes, with the greatest count of a file. -/
def quotedSettings : Settings where
  content :=
    { dir := "it's \"C:\\pages\"\n'''\x01\r"
      routePrefix := "/d\\"
      categoryOrder := ["'", "\x7f\""] }
  listing := { pageSize := 9223372036854775807 }

/-- A document of these settings that is not the one that is written. -/
def quotedText : String :=
  "listing.page_size = 0x7fff_ffff_ffff_ffff\n[content]\nroute_prefix = '/d\\' # a route\n"
    ++ "dir = \"it's \\\"C:\\\\pages\\\"\\n'''\\u0001\\r\"\n"
    ++ "category_order = [\"'\", \"\\u007f\\\"\",]"

/-- A disk with the file of these settings and an empty home directory. -/
def settingsDisk : Disk :=
  { tree := .directory [("home", .directory []), ("s.toml", .file quotedText.toUTF8)] }

theorem load_settingsDisk : Settings.load settingsDisk "s.toml" = .ok quotedSettings := by
  have hlocate : settingsDisk.locate "s.toml" true = .ok (.found ["s.toml"]) := by
    have hname : ¬ Path.maxNameLength < (Text.utf8 "s.toml").length := by decide
    have hother : (Text.utf8 "s.toml" == Text.utf8 "home") = false := by decide
    rw [Disk.locate_of_relative (s := ["s.toml"]) (by decide)]
    simp [FileTree.takeSteps, hname, hother, settingsDisk, FileTree.get?, FileTree.child?,
      List.lookup_cons]
  have hresolve : settingsDisk.resolve "s.toml" = .ok (.file quotedText.toUTF8) := by
    rw [Disk.resolve, hlocate]
    rfl
  exact Settings.load_eq_ok_iff.mpr
    ⟨quotedText, Disk.readText_of_resolve hresolve, by decide +kernel, by decide⟩

theorem exists_store_settingsDisk : ∃ d, Settings.store settingsDisk "home" = .ok d := by
  have hhome : ¬ Path.maxNameLength < (Text.utf8 "home").length := by decide
  have hdirectory : ¬ Path.maxNameLength < (Text.utf8 ".docrank").length := by decide
  have hfile : ¬ Path.maxNameLength < (Text.utf8 "docrank.toml").length := by decide
  have hfree : settingsDisk.locate "home/.docrank" false = .ok (.free ["home"] ".docrank") := by
    rw [Disk.locate_of_relative (s := ["home", ".docrank"]) (by decide)]
    simp [FileTree.takeSteps, hhome, hdirectory, settingsDisk, FileTree.get?, FileTree.child?]
  have hcreate : settingsDisk.create "home/.docrank" .empty =
      .ok (settingsDisk.put ["home", ".docrank"] .empty) :=
    bind_eq_ok_iff.mpr ⟨_, hfree, rfl⟩
  have hmade : settingsDisk.makeDirectories (Settings.homeDirectory "home") =
      .ok (settingsDisk.put ["home", ".docrank"] .empty) := by
    have hnames : (Path.names (Settings.homeDirectory "home")).reverse =
        [Text.utf8 ".docrank", Text.utf8 "home"] := by decide
    have habsolute : Path.isAbsolute (Settings.homeDirectory "home") = false := by decide
    have hpath : Text.utf8 "" ++ [Path.slash].intercalate
        [Text.utf8 ".docrank", Text.utf8 "home"].reverse = Text.utf8 "home/.docrank" := by
      decide
    rw [Disk.makeDirectories, hnames, habsolute, Disk.makeDirectoriesOf]
    simp only [Bool.false_eq_true, if_false, hpath, Disk.makeDirectory, hcreate]
  have hnew :
      (settingsDisk.put ["home", ".docrank"] .empty).locate (Settings.homeFile "home") true =
        .ok (.free ["home", ".docrank"] "docrank.toml") := by
    rw [Disk.locate_of_relative (s := ["home", ".docrank", "docrank.toml"]) (by decide)]
    simp [FileTree.takeSteps, hhome, hdirectory, hfile, settingsDisk, Disk.put, FileTree.insert,
      Entries.set, FileTree.get?, FileTree.child?, FileTree.empty]
  exact ⟨_, bind_eq_ok_iff.mpr ⟨_, mapError_eq_ok_iff.mpr hmade,
    mapError_eq_ok_iff.mpr (bind_eq_ok_iff.mpr ⟨_, hnew, rfl⟩)⟩⟩

/-- Settings with quotes, backslashes, line ends and control characters: their document is written
over the one that they were loaded from, and printed. Below the home directory the defaults are
stored. -/
theorem settings_survive_writing_of_quotes :
    let environment : String → Option String := fun name =>
      if name = "HOME" then some "home" else none
    let shown := run environment ["--config", "s.toml", "config", "show"] settingsDisk
    let stored := run environment ["config", "init"] settingsDisk
    Settings.load settingsDisk "s.toml" = .ok quotedSettings ∧ settingsDisk.HasStart ∧
      (∃ text d', quotedSettings.toml? = some text ∧
        settingsDisk.writeText "s.toml" text = .ok d' ∧
        Settings.load d' "s.toml" = .ok quotedSettings ∧ shown.result = .ok (text ++ "\n")) ∧
      stored.result = .ok ("Config initialized at: " ++ Settings.homeFile "home" ++ "\n") ∧
      Settings.load stored.disk (Settings.homeFile "home") = .ok {} := by
  intro environment shown stored
  have hstart : settingsDisk.HasStart := ⟨_, rfl⟩
  have hhome : homeOf environment = .ok "home" := rfl
  obtain ⟨hload, hshow, -, hstore⟩ := settings_survive_writing
  refine ⟨load_settingsDisk, hstart, ?_, ?_⟩
  · obtain ⟨text, htext, -, -, hwrite⟩ := hload settingsDisk "s.toml" _ load_settingsDisk
    obtain ⟨d', hwritten, hloaded⟩ := hwrite hstart
    have hi : Invocation.ofArguments environment ["--config", "s.toml", "config", "show"] =
        .ok { settingsFile := some "s.toml", command := .printSettings } := by
      decide
    have hsettings :
        Invocation.settings { settingsFile := some "s.toml", command := .printSettings } environment
          settingsDisk = .ok quotedSettings :=
      bind_eq_ok_iff.mpr ⟨_, load_settingsDisk, by decide⟩
    obtain ⟨text', htext', hprinted, -⟩ := hshow _ _ _ _ _ hi rfl hsettings
    obtain rfl := Option.some.inj (htext.symm.trans htext')
    exact ⟨text, d', htext, hwritten, hloaded, hprinted⟩
  · have hi : Invocation.ofArguments environment ["config", "init"] =
        .ok { command := .storeSettings } := by
      decide
    obtain ⟨d', hd'⟩ := exists_store_settingsDisk
    have hrun : run environment ["config", "init"] settingsDisk = ⟨d', .ok _⟩ :=
      (run_storeSettings_iff hi rfl).mpr ⟨"home", hhome, hd', rfl⟩
    have hresult := congrArg Outcome.result hrun
    obtain ⟨home, hhome', -, hloaded⟩ := hstore _ _ _ _ _ hi rfl hstart hresult
    obtain rfl := Except.ok.inj (hhome.symm.trans hhome')
    exact ⟨hresult, hloaded⟩

end Sample

end DocSite
