import DocSite.Program
import DocSite.Proofs.Except
import DocSite.Proofs.FileTree
import DocSite.Proofs.Text.Runs

/-!
# Proper disks

A disk is proper if its tree is and the names of the place where paths start can be names
(`Disk.Proper`). A path leads to places with proper names only (`takeSteps_proper`). So what stands
there is proper (`Proper.resolve`), and running a command line leaves the disk proper
(`Proper.run`). What one new directory preserves, all directories of a path preserve
(`of_makeDirectoriesOf`).
-/

namespace DocSite

open FileTree (IsName)

/-! ### Steps of a path -/

namespace Path

/-- A step that a path can have: a name, or one that stays or goes up. -/
structure IsStep (step : Bytes) : Prop where
  ne_empty : step ≠ []
  not_mem_slash : slash ∉ step

theorem isStep_of_mem_names {path step : Bytes} (h : step ∈ names path) : IsStep step := by
  obtain ⟨hne, hstep⟩ := Text.forall_of_mem_runs (p := (· == slash)) h
  refine ⟨hne, fun hmem => ?_⟩
  exact absurd (hstep _ hmem).2 (by decide)

theorem isStep_of_mem_steps {path step : Bytes} (h : step ∈ steps path) : IsStep step := by
  rw [steps] at h
  split_ifs at h
  · rcases List.mem_append.mp h with h | h
    · exact isStep_of_mem_names h
    · obtain rfl := List.mem_singleton.mp h
      exact ⟨by decide, by decide⟩
  · exact isStep_of_mem_names h

theorem endsWithSlash_cons (b : UInt8) {path : Bytes} (h : path ≠ []) :
    endsWithSlash (b :: path) = endsWithSlash path := by
  obtain ⟨b', rest, rfl⟩ := List.exists_cons_of_ne_nil h
  rw [endsWithSlash, endsWithSlash, List.getLast?_cons_cons]

end Path

/-! ### Places -/

/-- A place whose names can be names. -/
def Place.Proper : Place → Prop
  | .found location => ∀ n ∈ location, IsName n
  | .free parent name => ∀ n ∈ parent ++ [name], IsName n

/-- A step that neither stays nor goes up leads to a place with one more name. -/
theorem isName_of_mem_concat {place : List Bytes} {step : Bytes}
    (hplace : ∀ n ∈ place, IsName n) (hstep : Path.IsStep step) (hhere : step ≠ Text.utf8 ".")
    (habove : step ≠ Text.utf8 "..") : ∀ n ∈ place ++ [step], IsName n :=
  List.forall_mem_append.mpr ⟨hplace, List.forall_mem_singleton.mpr
    ⟨hstep.ne_empty, hhere, habove, hstep.not_mem_slash⟩⟩

/-- Steps lead from a proper place to proper places, also through links. -/
theorem FileTree.takeSteps_proper {t : FileTree} {follow : Bool} {links : ℕ}
    {place steps : List Bytes} {p : Place} (hplace : ∀ n ∈ place, IsName n)
    (hsteps : ∀ s ∈ steps, Path.IsStep s)
    (h : t.takeSteps follow links place steps = .ok p) : p.Proper := by
  -- On the steps and the links that may still be followed, as the steps are taken.
  fun_induction takeSteps t follow links place steps with
  | case1 links place =>
    cases h
    exact hplace
  | case2 links place rest ih => exact ih hplace (List.forall_mem_cons.mp hsteps).2 h
  | case3 links place rest _ ih =>
    exact ih (fun n hn => hplace n (List.dropLast_subset _ hn))
      (List.forall_mem_cons.mp hsteps).2 h
  | case5 links place step rest hhere habove =>
    cases h
    exact isName_of_mem_concat hplace (List.forall_mem_cons.mp hsteps).1 hhere habove
  | case7 links place step rest hhere habove _ _ _ ih =>
    obtain ⟨hstep, hrest⟩ := List.forall_mem_cons.mp hsteps
    exact ih (isName_of_mem_concat hplace hstep hhere habove) hrest h
  | case8 links place step rest hhere habove =>
    cases h
    exact isName_of_mem_concat hplace (List.forall_mem_cons.mp hsteps).1 hhere habove
  | case10 links place step rest hhere habove =>
    cases h
    exact isName_of_mem_concat hplace (List.forall_mem_cons.mp hsteps).1 hhere habove
  | case12 place step rest _ _ _ target _ _ links ih =>
    -- A link is replaced by the steps of its target.
    refine ih ?_ ?_ h
    · split_ifs
      · exact List.forall_mem_nil _
      · exact hplace
    · exact List.forall_mem_append.mpr
        ⟨fun s hs => Path.isStep_of_mem_steps hs, (List.forall_mem_cons.mp hsteps).2⟩
  | case4 | case6 | case9 | case11 => cases h

namespace Disk

/-! ### Disks -/

/-- An ordinary relative path is followed from where paths start. -/
theorem locate_of_relative {path : Bytes} {s : List Bytes}
    (h : 0 ∉ path ∧ path ≠ [] ∧ path.length ≤ Path.maxLength ∧ Path.isAbsolute path = false ∧
      Path.steps path = s) (d : Disk) (follow : Bool) :
    d.locate path follow = d.tree.takeSteps follow Path.maxLinks d.here s := by
  obtain ⟨hnul, hempty, hlength, habsolute, hsteps⟩ := h
  have hcontains : path.contains 0 = false := by simpa using hnul
  have hsome : path.isEmpty = false := by simpa using hempty
  rw [locate, hcontains, hsome, if_neg (Nat.not_lt.mpr hlength), hsteps, start, habsolute]
  rfl

/-- A path that begins with a step that stays leads where the rest of it leads. -/
theorem locate_here_cons {path : Bytes} (hne : path ≠ []) (hrelative : Path.isAbsolute path = false)
    (hlength : path.length + 2 ≤ Path.maxLength) (d : Disk) (follow : Bool) :
    d.locate (0x2e :: Path.slash :: path) follow = d.locate path follow := by
  have hends : Path.endsWithSlash (0x2e :: Path.slash :: path) = Path.endsWithSlash path := by
    rw [Path.endsWithSlash_cons _ (List.cons_ne_nil _ _), Path.endsWithSlash_cons _ hne]
  have hnames : Path.names (0x2e :: Path.slash :: path) = Text.utf8 "." :: Path.names path :=
    Text.runs_append_cons (p := (· == Path.slash)) [0x2e] path rfl
  have hsteps : Path.steps (0x2e :: Path.slash :: path) = Text.utf8 "." :: Path.steps path := by
    rw [Path.steps, Path.steps, hends, hnames]
    split_ifs <;> rfl
  have hcontains : (0x2e :: Path.slash :: path).contains 0 = path.contains 0 := rfl
  have hrelative' : Path.isAbsolute (0x2e :: Path.slash :: path) = false := rfl
  have hsome : path.isEmpty = false := List.isEmpty_eq_false_iff.mpr hne
  have hlong : ¬ Path.maxLength < (0x2e :: Path.slash :: path).length := by
    rw [List.length_cons, List.length_cons]
    omega
  rw [locate, locate, hcontains, hsteps, start, start, hrelative, hrelative', hsome, if_neg hlong,
    if_neg (by omega : ¬ Path.maxLength < path.length), FileTree.takeSteps, if_pos rfl]
  rfl

theorem isDirectory_eq_false_iff {d : Disk} {path : Bytes} :
    d.isDirectory path = false ↔ ∀ entries, d.resolve path ≠ .ok (.directory entries) := by
  unfold isDirectory
  split
  · rename_i entries hroot
    simp [hroot]
  · rename_i hroot
    simpa using hroot

section MakeDirectories

variable {P : Disk → Prop}
  (hcreate : ∀ {d made : Disk} {path : Bytes}, P d → d.create path .empty = .ok made → P made)
include hcreate

/-- What adding an empty directory preserves, making a directory preserves. -/
theorem of_makeDirectory {d d' : Disk} {path : Bytes} (h : P d)
    (hd : d.makeDirectory path = .ok d') : P d' := by
  rw [makeDirectory] at hd
  cases hmade : d.create path .empty with
  | ok made =>
    rw [hmade] at hd
    cases hd
    exact hcreate h hmade
  | error fault =>
    simp only [hmade] at hd
    split_ifs at hd
    cases hd
    exact h

/-- What adding an empty directory preserves, making all directories of a path preserves. -/
theorem of_makeDirectoriesOf {d d' : Disk} {start : Bytes} {names : List Bytes} (h : P d)
    (hd : d.makeDirectoriesOf start names = .ok d') : P d' := by
  induction names generalizing d' with
  | nil =>
    cases hd
    exact h
  | cons name above ih =>
    rw [makeDirectoriesOf] at hd
    split at hd
    · -- The directories above are missing and are made first.
      split_ifs at hd
      obtain ⟨made, hmade, hd⟩ := bind_eq_ok_iff.mp hd
      exact of_makeDirectory hcreate (ih hmade) hd
    · exact of_makeDirectory hcreate h hd

end MakeDirectories

/-- A disk whose tree is proper and on which paths start at a place with proper names. -/
structure Proper (d : Disk) : Prop where
  tree : d.tree.Proper
  here : ∀ n ∈ d.here, IsName n

namespace Proper

variable {d d' : Disk} {path : Bytes}

theorem locate (h : d.Proper) {follow : Bool} {p : Place}
    (hp : d.locate path follow = .ok p) : p.Proper := by
  rw [Disk.locate] at hp
  split_ifs at hp
  refine FileTree.takeSteps_proper ?_ (fun s hs => Path.isStep_of_mem_steps hs) hp
  rw [start]
  split_ifs
  · exact List.forall_mem_nil _
  · exact h.here

/-- What a path leads to on a proper disk is proper. -/
theorem resolve (h : d.Proper) {t : FileTree} (ht : d.resolve path = .ok t) : t.Proper := by
  obtain ⟨p, -, ht⟩ := bind_eq_ok_iff.mp ht
  cases p with
  | free parent name => cases ht
  | found location =>
    cases hfound : d.tree.get? location with
    | none =>
      simp only [hfound] at ht
      cases ht
    | some u =>
      simp only [hfound] at ht
      cases ht
      exact (h.tree.get? hfound).2

theorem put (h : d.Proper) {location : List Bytes} (hlocation : ∀ n ∈ location, IsName n)
    {new : FileTree} (hnew : new.Proper) : (d.put location new).Proper :=
  ⟨hnew.insert h.tree hlocation, h.here⟩

theorem write (h : d.Proper) {content : ByteArray} (hd : d.write path content = .ok d') :
    d'.Proper := by
  obtain ⟨p, hp, hd⟩ := bind_eq_ok_iff.mp hd
  have hproper := h.locate hp
  cases p with
  | free parent name =>
    cases hd
    exact h.put hproper (.file content)
  | found location =>
    have hput := h.put hproper (.file content)
    cases hfound : d.tree.get? location with
    | none =>
      simp only [hfound] at hd
      cases hd
      exact hput
    | some u =>
      simp only [hfound] at hd
      cases u with
      | directory entries => cases hd
      | file _ | link _ =>
        cases hd
        exact hput

theorem create (h : d.Proper) {new : FileTree} (hnew : new.Proper)
    (hd : d.create path new = .ok d') : d'.Proper := by
  obtain ⟨p, hp, hd⟩ := bind_eq_ok_iff.mp hd
  cases p with
  | free parent name =>
    cases hd
    exact h.put (h.locate hp) hnew
  | found location => cases hd

theorem store (h : d.Proper) {home : String} (hd : Settings.store d home = .ok d') :
    d'.Proper := by
  obtain ⟨made, hmade, hd⟩ := bind_eq_ok_iff.mp hd
  have hproper : made.Proper := of_makeDirectoriesOf
    (fun h hcreate => h.create FileTree.proper_empty hcreate) h (mapError_eq_ok_iff.mp hmade)
  exact hproper.write (mapError_eq_ok_iff.mp hd)

/-- Running a command line leaves a proper disk proper. -/
theorem run (h : d.Proper) (environment : String → Option String) (args : List String) :
    (DocSite.run environment args d).disk.Proper := by
  rw [DocSite.run]
  split
  · rw [Invocation.run]
    split_ifs
    · split
      · rename_i hstore
        obtain ⟨home, -, hstore⟩ := bind_eq_ok_iff.mp hstore
        obtain ⟨made, hmade, hstore⟩ := bind_eq_ok_iff.mp hstore
        cases hstore
        exact h.store hmade
      · exact h
    · exact h
  · exact h

end Proper

end Disk

end DocSite
