import DocSite.Proofs.Disk

/-!
# A file that is written is read back

* `Place.Stands`: what is where steps from a directory lead.
* `get?_insert_self` and `alike_get?_insert`: putting something into a directory changes what stands
  at this place and below it; elsewhere all stays, but for what the directories above hold.
* `takeSteps_insert`: so the steps that led to the place of a new file lead to it again.
* `readText_of_writeText`: a text that is written at a path is read there. A file can be written
  exactly where `write_eq_ok_iff` says.
-/

namespace DocSite

/-! ### What stands at a place -/

namespace FileTree

variable {t : FileTree}

/-- A directory stands at a place. -/
def HasDirectory (t : FileTree) (place : List Bytes) : Prop :=
  ∃ entries, t.get? place = some (.directory entries)

theorem get?_append_singleton (t : FileTree) (names : List Bytes) (name : Bytes) :
    t.get? (names ++ [name]) = (t.get? names).bind (child? name) := by
  rw [get?_append]
  refine Option.bind_congr fun u _ => ?_
  rw [get?]
  exact Option.bind_fun_some _

/-- Above a directory are directories. -/
theorem HasDirectory.of_le {place above : List Bytes} (h : t.HasDirectory place)
    (hle : above <+: place) : t.HasDirectory above := by
  obtain ⟨names, rfl⟩ := hle
  obtain ⟨entries, h⟩ := h
  cases names with
  | nil => exact ⟨entries, by simpa using h⟩
  | cons name rest => exact exists_directory_of_get?_append (List.cons_ne_nil _ _) h

theorem HasDirectory.dropLast {place : List Bytes} (h : t.HasDirectory place) :
    t.HasDirectory place.dropLast :=
  h.of_le place.dropLast_prefix

theorem HasDirectory.root {place : List Bytes} (h : t.HasDirectory place) : t.HasDirectory [] :=
  h.of_le List.nil_prefix

end FileTree

open FileTree (HasDirectory)

/-- What stands where steps from a directory lead. -/
inductive Place.Stands (t : FileTree) (follow : Bool) : Place → Prop
  | directory {location : List Bytes} (h : t.HasDirectory location) :
      Stands t follow (.found location)
  | file {parent : List Bytes} {name : Bytes} {content : ByteArray}
      (hparent : t.HasDirectory parent) (h : t.get? (parent ++ [name]) = some (.file content)) :
      Stands t follow (.found (parent ++ [name]))
  | link {parent : List Bytes} {name target : Bytes} (hfollow : follow = false)
      (hparent : t.HasDirectory parent) (h : t.get? (parent ++ [name]) = some (.link target)) :
      Stands t follow (.found (parent ++ [name]))
  | free {parent : List Bytes} {name : Bytes} (hparent : t.HasDirectory parent)
      (h : t.get? (parent ++ [name]) = none) : Stands t follow (.free parent name)

/-- The names on the way to what a place is about. -/
def Place.location : Place → List Bytes
  | .found location => location
  | .free parent name => parent ++ [name]

namespace FileTree

variable {t : FileTree}

/-- A link is followed from a directory. -/
theorem HasDirectory.link {place : List Bytes} (h : t.HasDirectory place) (target : Bytes) :
    t.HasDirectory (if Path.isAbsolute target then [] else place) := by
  split_ifs
  · exact h.root
  · exact h

/-- Steps from a directory lead to a name in a directory, or to a directory. -/
theorem stands_of_takeSteps {follow : Bool} {links : ℕ} {place steps : List Bytes} {p : Place}
    (hplace : t.HasDirectory place) (h : t.takeSteps follow links place steps = .ok p) :
    p.Stands t follow := by
  fun_induction takeSteps t follow links place steps with
  | case1 links place =>
    cases h
    exact .directory hplace
  | case2 links place rest ih => exact ih hplace h
  | case3 links place rest _ ih => exact ih hplace.dropLast h
  | case5 links place step rest _ _ _ hchild =>
    cases h
    exact .free hplace (by rw [get?_append_singleton, hchild])
  | case7 links place step rest _ _ _ entries hchild ih =>
    exact ih ⟨entries, by rw [get?_append_singleton, hchild]⟩ h
  | case8 links place step rest _ _ _ content hchild =>
    cases h
    exact .file hplace (by rw [get?_append_singleton, hchild])
  | case10 links place step rest _ _ _ target hchild hfollow =>
    cases h
    refine .link ?_ hplace (by rw [get?_append_singleton, hchild])
    simpa using (Bool.and_eq_true_iff.mp hfollow).2
  | case12 place step rest _ _ _ target _ _ links ih => exact ih (hplace.link target) h
  | case4 | case6 | case9 | case11 => cases h

/-! ### Putting something into a directory -/

/-- What stands at a place before and after something is put elsewhere: the same, unless it is a
directory. -/
inductive Alike : Option FileTree → Option FileTree → Prop
  | refl (found : Option FileTree) : Alike found found
  | directory (entries entries' : List (Bytes × FileTree)) :
      Alike (some (.directory entries)) (some (.directory entries'))

theorem get?_insert_self {parent : List Bytes} (h : t.HasDirectory parent) (name : Bytes)
    (new : FileTree) : (insert new (parent ++ [name]) t).get? (parent ++ [name]) = some new := by
  obtain ⟨entries, hparent⟩ := h
  induction parent generalizing t with
  | nil =>
    cases hparent
    simp [insert, get?, child?, Entries.lookup_set]
  | cons above rest ih =>
    obtain ⟨u, hu, hrest⟩ := Option.bind_eq_some_iff.mp hparent
    cases t with
    | file content => cases hu
    | link target => cases hu
    | directory entries' =>
      have hlookup : entries'.lookup above = some u := hu
      simp only [List.cons_append, insert, get?, child?, Entries.lookup_set, if_true, hlookup,
        Option.getD_some, Option.bind_some]
      exact ih hrest

theorem alike_get?_insert {parent place : List Bytes} (h : t.HasDirectory parent) {name : Bytes}
    (hplace : ¬ parent ++ [name] <+: place) (new : FileTree) :
    Alike (t.get? place) ((insert new (parent ++ [name]) t).get? place) := by
  obtain ⟨entries, hparent⟩ := h
  induction parent generalizing t place with
  | nil =>
    cases hparent
    cases place with
    | nil => exact .directory _ _
    | cons first rest =>
      have hne : first ≠ name := by
        rintro rfl
        exact hplace (by simp)
      simp only [List.nil_append, insert, get?, child?, Entries.lookup_set, if_neg hne]
      exact .refl _
  | cons above parent ih =>
    obtain ⟨u, hu, hrest⟩ := Option.bind_eq_some_iff.mp hparent
    cases t with
    | file content => cases hu
    | link target => cases hu
    | directory entries' =>
      have hlookup : entries'.lookup above = some u := hu
      cases place with
      | nil => exact .directory _ _
      | cons first rest =>
        by_cases hfirst : first = above
        · subst hfirst
          have hbelow : ¬ parent ++ [name] <+: rest := by
            simpa using hplace
          simp only [List.cons_append, insert, get?, child?, Entries.lookup_set, if_true, hlookup,
            Option.getD_some, Option.bind_some]
          exact ih hbelow hrest
        · simp only [List.cons_append, insert, get?, child?, Entries.lookup_set, if_neg hfirst]
          exact .refl _

/-- Where something is put that is no directory before, directories stay. -/
theorem HasDirectory.insert {parent place : List Bytes} (h : t.HasDirectory parent)
    {name : Bytes} (hnew : ¬ t.HasDirectory (parent ++ [name])) (hplace : t.HasDirectory place)
    (new : FileTree) : (insert new (parent ++ [name]) t).HasDirectory place := by
  have halike := alike_get?_insert h (fun hle => hnew (hplace.of_le hle)) new
  obtain ⟨entries, hentries⟩ := hplace
  rw [hentries] at halike
  generalize hget : (FileTree.insert new (parent ++ [name]) t).get? place = found at halike
  cases halike with
  | refl => exact ⟨entries, hget⟩
  | directory entries entries' => exact ⟨entries', hget⟩

/-! ### The steps to a new file -/

/-- The place of a file that is made, or replaces another one. -/
structure TakesFile (t : FileTree) (parent : List Bytes) (name : Bytes) : Prop where
  hasDirectory : t.HasDirectory parent
  none_or_file : t.get? (parent ++ [name]) = none ∨
    ∃ content, t.get? (parent ++ [name]) = some (.file content)

variable {parent : List Bytes} {name : Bytes}

theorem TakesFile.not_hasDirectory (h : t.TakesFile parent name) :
    ¬ t.HasDirectory (parent ++ [name]) := by
  rintro ⟨entries, hdirectory⟩
  rcases h.none_or_file with hnone | ⟨content, hfile⟩
  · rw [hnone] at hdirectory
    cases hdirectory
  · rw [hfile] at hdirectory
    cases hdirectory

/-- A step to another place leads to what it led to before. -/
theorem TakesFile.alike_child (h : t.TakesFile parent name) {place : List Bytes}
    (hplace : t.HasDirectory place) {step : Bytes} (hne : place ++ [step] ≠ parent ++ [name])
    (new : FileTree) :
    Alike ((t.get? place).bind (child? step))
      (((insert new (parent ++ [name]) t).get? place).bind (child? step)) := by
  rw [← get?_append_singleton, ← get?_append_singleton]
  refine alike_get?_insert h.hasDirectory (fun hle => ?_) new
  rcases List.prefix_concat_iff.mp hle with heq | hle
  · exact hne heq.symm
  · exact h.not_hasDirectory (hplace.of_le hle)

/-- The last step to the place of a new file leads to this file. -/
theorem TakesFile.takeSteps_singleton (h : t.TakesFile parent name) (content : ByteArray)
    {links : ℕ} {place : List Bytes} {step : Bytes} (hhere : step ≠ Text.utf8 ".")
    (habove : step ≠ Text.utf8 "..")
    (hlength : ¬ Path.maxNameLength < step.length)
    (hlocation : place ++ [step] = parent ++ [name]) :
    (insert (.file content) (parent ++ [name]) t).takeSteps true links place [step] =
      .ok (.found (parent ++ [name])) := by
  have hchild : ((insert (.file content) (parent ++ [name]) t).get? place).bind (child? step) =
      some (.file content) := by
    rw [← get?_append_singleton, hlocation]
    exact get?_insert_self h.hasDirectory name _
  rw [takeSteps, if_neg hhere, if_neg habove, if_neg hlength, hchild, ← hlocation]
  rfl

/-- The steps that lead to the place of a new file lead to this file. -/
theorem TakesFile.takeSteps_insert (h : t.TakesFile parent name) (content : ByteArray) {links : ℕ}
    {place steps : List Bytes} {p : Place} (hplace : t.HasDirectory place)
    (hp : p.location = parent ++ [name])
    (hsteps : t.takeSteps true links place steps = .ok p) :
    (insert (.file content) (parent ++ [name]) t).takeSteps true links place steps =
      .ok (.found (parent ++ [name])) := by
  fun_induction takeSteps t true links place steps with
  | case1 links place =>
    cases hsteps
    exact absurd (hp ▸ hplace) h.not_hasDirectory
  | case2 links place rest ih =>
    rw [takeSteps, if_pos rfl]
    exact ih hplace hsteps
  | case3 links place rest hhere ih =>
    rw [takeSteps, if_neg hhere, if_pos rfl]
    exact ih hplace.dropLast hsteps
  | case5 links place step rest hhere habove hlength hchild hlast =>
    obtain rfl := List.isEmpty_iff.mp hlast
    cases hsteps
    exact h.takeSteps_singleton content hhere habove hlength hp
  | case7 links place step rest hhere habove hlength entries hchild ih =>
    have hdirectory : t.HasDirectory (place ++ [step]) :=
      ⟨entries, by rw [get?_append_singleton, hchild]⟩
    obtain ⟨entries', hentries⟩ :=
      h.hasDirectory.insert h.not_hasDirectory hdirectory (.file content)
    rw [get?_append_singleton] at hentries
    rw [takeSteps, if_neg hhere, if_neg habove, if_neg hlength, hentries]
    exact ih hdirectory hsteps
  | case8 links place step rest hhere habove hlength content' hchild hlast =>
    obtain rfl := List.isEmpty_iff.mp hlast
    cases hsteps
    exact h.takeSteps_singleton content hhere habove hlength hp
  | case10 links place step rest _ _ _ target _ hfollow => simp at hfollow
  | case12 place step rest hhere habove hlength target hchild hfollow links ih =>
    -- A link is at another place, since no file was put there.
    have hne : place ++ [step] ≠ parent ++ [name] := by
      intro heq
      have hlink := h.none_or_file
      rw [← heq, get?_append_singleton, hchild] at hlink
      simp at hlink
    have hlink := h.alike_child hplace hne (.file content)
    rw [hchild] at hlink
    generalize hget : ((insert (.file content) (parent ++ [name]) t).get? place).bind
      (child? step) = found at hlink
    cases hlink
    rw [takeSteps, if_neg hhere, if_neg habove, if_neg hlength, hget]
    simp only [hfollow]
    exact ih (hplace.link target) hsteps
  | case4 | case6 | case9 | case11 => cases hsteps

end FileTree

/-! ### Disks -/

namespace Disk

variable {d d' : Disk} {path : Bytes}

/-- Paths start at a directory. -/
def HasStart (d : Disk) : Prop :=
  d.tree.HasDirectory d.here

theorem HasStart.hasDirectory_start (h : d.HasStart) (path : Bytes) :
    d.tree.HasDirectory (d.start path) := by
  rw [start]
  split_ifs
  · exact FileTree.HasDirectory.root h
  · exact h

theorem HasStart.stands (h : d.HasStart) {follow : Bool} {p : Place}
    (hp : d.locate path follow = .ok p) : p.Stands d.tree follow := by
  rw [locate] at hp
  split_ifs at hp
  exact FileTree.stands_of_takeSteps (h.hasDirectory_start path) hp

theorem readText_of_resolve {text : String} (h : d.resolve path = .ok (.file text.toUTF8)) :
    d.readText path = .ok text := by
  have htext : String.fromUTF8? text.toUTF8 = some text := by
    simpa [String.fromUTF8?] using ⟨text.isValidUTF8, rfl⟩
  refine bind_eq_ok_iff.mpr ⟨_, h, ?_⟩
  simp only [FileTree.textOf, htext]

/-- A path that leads to the place of a new file leads to this file. -/
theorem HasStart.resolve_put (h : d.HasStart) {parent : List Bytes} {name : Bytes}
    (hfile : d.tree.TakesFile parent name) {p : Place} (hlocate : d.locate path true = .ok p)
    (hp : p.location = parent ++ [name]) (content : ByteArray) :
    (d.put (parent ++ [name]) (.file content)).resolve path = .ok (.file content) := by
  have hagain : (d.put (parent ++ [name]) (.file content)).locate path true =
      .ok (.found (parent ++ [name])) := by
    rw [locate] at hlocate ⊢
    split_ifs at hlocate ⊢
    exact hfile.takeSteps_insert content (h.hasDirectory_start path) hp hlocate
  have hfound : (d.put (parent ++ [name]) (.file content)).tree.get? (parent ++ [name]) =
      some (.file content) :=
    FileTree.get?_insert_self hfile.hasDirectory name _
  rw [resolve, hagain]
  simp only [bind, Except.bind, hfound]
  rfl

/-- A file is written exactly where a path leads to a file or to a free name. -/
theorem HasStart.write_eq_ok_iff (h : d.HasStart) {content : ByteArray} :
    d.write path content = .ok d' ↔ ∃ p parent name, d.locate path true = .ok p ∧
      p.location = parent ++ [name] ∧ d.tree.TakesFile parent name ∧
      d' = d.put (parent ++ [name]) (.file content) := by
  constructor
  · intro hwrite
    obtain ⟨p, hp, hwrite⟩ := bind_eq_ok_iff.mp hwrite
    cases h.stands hp with
    | @directory location hdirectory =>
      obtain ⟨entries, hentries⟩ := hdirectory
      simp only [hentries] at hwrite
      cases hwrite
    | @file parent name content' hparent hfile =>
      simp only [hfile] at hwrite
      cases hwrite
      exact ⟨_, parent, name, hp, rfl, ⟨hparent, .inr ⟨content', hfile⟩⟩, rfl⟩
    | link hfollow => cases hfollow
    | @free parent name hparent hnone =>
      cases hwrite
      exact ⟨_, parent, name, hp, rfl, ⟨hparent, .inl hnone⟩, rfl⟩
  · rintro ⟨p, parent, name, hp, hlocation, hfile, rfl⟩
    refine bind_eq_ok_iff.mpr ⟨p, hp, ?_⟩
    cases p with
    | free parent' name' =>
      rw [← hlocation]
      rfl
    | found location =>
      obtain rfl : location = parent ++ [name] := hlocation
      rcases hfile.none_or_file with hnone | ⟨content', hfile⟩
      · simp only [hnone]
        rfl
      · simp only [hfile]
        rfl

/-- A text that is written at a path is read there. -/
theorem HasStart.readText_of_writeText (h : d.HasStart) {text : String}
    (hwrite : d.writeText path text = .ok d') : d'.readText path = .ok text := by
  obtain ⟨p, parent, name, hp, hlocation, hfile, rfl⟩ := h.write_eq_ok_iff.mp hwrite
  exact readText_of_resolve (h.resolve_put hfile hp hlocation _)

/-- A file that can be read can be written. -/
theorem HasStart.exists_writeText (h : d.HasStart) {text : String}
    (hread : d.readText path = .ok text) (text' : String) :
    ∃ d', d.writeText path text' = .ok d' := by
  obtain ⟨found, hresolve, hread⟩ := bind_eq_ok_iff.mp hread
  obtain ⟨p, hp, hfound⟩ := bind_eq_ok_iff.mp hresolve
  cases h.stands hp with
  | @directory location hdirectory =>
    obtain ⟨entries, hentries⟩ := hdirectory
    simp only [hentries] at hfound
    cases hfound
    cases hread
  | @file parent name content' hparent hfile =>
    exact ⟨_, h.write_eq_ok_iff.mpr
      ⟨_, parent, name, hp, rfl, ⟨hparent, .inr ⟨content', hfile⟩⟩, rfl⟩⟩
  | link hfollow => cases hfollow
  | free hparent hnone => cases hfound

/-- Making an entry leaves the directory at which paths start. -/
theorem HasStart.create (h : d.HasStart) {new : FileTree} (hcreate : d.create path new = .ok d') :
    d'.HasStart := by
  obtain ⟨p, hp, hcreate⟩ := bind_eq_ok_iff.mp hcreate
  cases h.stands hp with
  | @free parent name hparent hnone =>
    cases hcreate
    refine hparent.insert ?_ h new
    rintro ⟨entries, hentries⟩
    rw [hnone] at hentries
    cases hentries
  | directory | file | link => cases hcreate

end Disk

end DocSite
