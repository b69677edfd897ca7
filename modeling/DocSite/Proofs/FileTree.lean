import DocSite.FileTree.Basic
import DocSite.Proofs.Entries

/-!
# Proper file trees

In a file system the entries of a directory have different names, and a name is neither empty nor a
step that stays or goes up, and has no slash (`FileTree.Proper`).

* `Proper.insert`: putting something into a proper tree leaves it proper.
* `Proper.mem_walk_iff`: the walk over a proper tree meets what stands in it (`Met.StandsAt`), if
  all directories above it can be listed (`IsReached`).
* `Proper.pairwise_walk`: the walk over a proper tree meets everything in the order of the names on
  the way, each at its own place.
-/

namespace DocSite

namespace FileTree

/-! ### What stands below a directory -/

theorem get?_append (t : FileTree) (names more : List Bytes) :
    t.get? (names ++ more) = (t.get? names).bind (get? more) := by
  induction names generalizing t with
  | nil => rfl
  | cons name rest ih =>
    rw [List.cons_append, get?, get?, Option.bind_assoc]
    exact Option.bind_congr fun u _ => ih u

/-- Above something are directories. -/
theorem exists_directory_of_get?_append {t u : FileTree} {above below : List Bytes}
    (hbelow : below ≠ []) (h : t.get? (above ++ below) = some u) :
    ∃ entries, t.get? above = some (.directory entries) := by
  rw [get?_append] at h
  obtain ⟨v, hv, h⟩ := Option.bind_eq_some_iff.mp h
  obtain ⟨name, rest, rfl⟩ := List.exists_cons_of_ne_nil hbelow
  cases v with
  | directory entries => exact ⟨entries, hv⟩
  | file content => cases h
  | link target => cases h

/-! ### Proper trees -/

/-- A name that an entry of a directory can have. -/
structure IsName (name : Bytes) : Prop where
  ne_empty : name ≠ []
  ne_here : name ≠ Text.utf8 "."
  ne_above : name ≠ Text.utf8 ".."
  not_mem_slash : 0x2f ∉ name

instance (name : Bytes) : Decidable (IsName name) :=
  decidable_of_iff (name ≠ [] ∧ name ≠ Text.utf8 "." ∧ name ≠ Text.utf8 ".." ∧ 0x2f ∉ name)
    ⟨fun ⟨h₁, h₂, h₃, h₄⟩ => ⟨h₁, h₂, h₃, h₄⟩, fun ⟨h₁, h₂, h₃, h₄⟩ => ⟨h₁, h₂, h₃, h₄⟩⟩

/-- A tree whose directories have entries with different names that can be names. -/
inductive Proper : FileTree → Prop
  | file (content : ByteArray) : Proper (file content)
  | link (target : Bytes) : Proper (link target)
  | directory {entries : List (Bytes × FileTree)} (nodup : (entries.map Prod.fst).Nodup)
      (isName : ∀ e ∈ entries, IsName e.1) (below : ∀ e ∈ entries, Proper e.2) :
      Proper (directory entries)

theorem proper_empty : Proper empty :=
  .directory List.nodup_nil (List.forall_mem_nil _) (List.forall_mem_nil _)

theorem Proper.singleton {t : FileTree} (h : t.Proper) {name : Bytes} (hname : IsName name) :
    Proper (.directory [(name, t)]) :=
  .directory (List.nodup_singleton name) (List.forall_mem_singleton.mpr hname)
    (List.forall_mem_singleton.mpr h)

theorem Proper.child? {t u : FileTree} (h : t.Proper) {name : Bytes}
    (hu : t.child? name = some u) : IsName name ∧ u.Proper := by
  cases h with
  | file => cases hu
  | link => cases hu
  | directory nodup isName below =>
    have hmem := Entries.mem_of_lookup hu
    exact ⟨isName _ hmem, below _ hmem⟩

/-- What stands at a place of a proper tree is proper, and the names of the place can be names. -/
theorem Proper.get? {t u : FileTree} (h : t.Proper) {names : List Bytes}
    (hu : t.get? names = some u) : (∀ n ∈ names, IsName n) ∧ u.Proper := by
  induction names generalizing t with
  | nil =>
    cases hu
    exact ⟨List.forall_mem_nil _, h⟩
  | cons name rest ih =>
    obtain ⟨v, hv, hu⟩ := Option.bind_eq_some_iff.mp hu
    obtain ⟨hname, hv⟩ := h.child? hv
    obtain ⟨hrest, hu⟩ := ih hv hu
    exact ⟨List.forall_mem_cons.mpr ⟨hname, hrest⟩, hu⟩

theorem Proper.insert {new t : FileTree} (hnew : new.Proper) (h : t.Proper)
    {names : List Bytes} (hnames : ∀ n ∈ names, IsName n) : (insert new names t).Proper := by
  induction names generalizing t with
  | nil => exact hnew
  | cons name rest ih =>
    obtain ⟨hname, hrest⟩ := List.forall_mem_cons.mp hnames
    cases h with
    | file content => exact .file content
    | link target => exact .link target
    | @directory entries nodup isName below =>
      have hchild : ((entries.lookup name).getD empty).Proper := by
        cases hfound : entries.lookup name with
        | none => exact proper_empty
        | some t => exact below _ (Entries.mem_of_lookup hfound)
      refine .directory (Entries.nodup_map_fst_set nodup) (fun e he => ?_) (fun e he => ?_)
      · rcases Entries.eq_or_mem_of_mem_set he with rfl | he
        · exact hname
        · exact isName e he
      · rcases Entries.eq_or_mem_of_mem_set he with rfl | he
        · exact ih hchild hrest
        · exact below e he

/-- Below a file stands nothing. -/
@[simp]
theorem get?_file_eq_some_iff {content : ByteArray} {names : List Bytes} {u : FileTree} :
    (file content).get? names = some u ↔ names = [] ∧ u = file content := by
  cases names with
  | nil => simp [FileTree.get?, eq_comm]
  | cons name rest => simp [FileTree.get?, FileTree.child?]

/-- Below a link stands nothing. -/
@[simp]
theorem get?_link_eq_some_iff {target : Bytes} {names : List Bytes} {u : FileTree} :
    (link target).get? names = some u ↔ names = [] ∧ u = link target := by
  cases names with
  | nil => simp [FileTree.get?, eq_comm]
  | cons name rest => simp [FileTree.get?, FileTree.child?]

/-- Below a directory stands what is below its entries. -/
theorem get?_directory_eq_some_iff {entries : List (Bytes × FileTree)}
    (h : (entries.map Prod.fst).Nodup) {names : List Bytes} {u : FileTree} :
    (directory entries).get? names = some u ↔ names = [] ∧ u = directory entries ∨
      ∃ e ∈ entries, ∃ rest, names = e.1 :: rest ∧ e.2.get? rest = some u := by
  cases names with
  | nil => simp [FileTree.get?, eq_comm]
  | cons name rest =>
    rw [FileTree.get?, FileTree.child?, Option.bind_eq_some_iff]
    simp only [Entries.lookup_eq_some_iff h, Prod.exists, List.cons_ne_nil, false_and, false_or,
      List.cons.injEq]
    constructor
    · rintro ⟨t, hmem, hget⟩
      exact ⟨name, t, hmem, rest, ⟨rfl, rfl⟩, hget⟩
    · rintro ⟨name, t, hmem, rest, ⟨rfl, rfl⟩, hget⟩
      exact ⟨t, hmem, hget⟩

theorem get?_directory_singleton_eq_some_iff {name : Bytes} {t : FileTree} {names : List Bytes}
    {u : FileTree} :
    (directory [(name, t)]).get? names = some u ↔ names = [] ∧ u = directory [(name, t)] ∨
      ∃ rest, names = name :: rest ∧ t.get? rest = some u := by
  have hnodup : ([(name, t)].map Prod.fst).Nodup := List.nodup_singleton name
  rw [get?_directory_eq_some_iff hnodup]
  simp

/-! ### The walk -/

variable {fault? : List Bytes → Option PathFault}

@[simp]
theorem walk_file (content : ByteArray) :
    (file content).walk fault? = [([], .file content)] := by
  rw [walk]

@[simp]
theorem walk_link (target : Bytes) : (link target).walk fault? = [] := by
  rw [walk]

theorem walkEntries_eq_map (entries : List (Bytes × FileTree)) :
    walkEntries fault? entries =
      entries.map fun e => (e.1, e.2.walk fun names => fault? (e.1 :: names)) := by
  induction entries with
  | nil => rw [walkEntries, List.map_nil]
  | cons e rest ih => rw [walkEntries, ih, List.map_cons]

/-- Of a directory that cannot be listed only this is met. -/
theorem walk_directory_of_fault {fault : PathFault} (h : fault? [] = some fault)
    (entries : List (Bytes × FileTree)) :
    (directory entries).walk fault? = [([], .unlisted fault)] := by
  rw [walk, h]

/-- The entries of a directory that can be listed, in the order of the walk. -/
theorem walk_directory (h : fault? [] = none) (entries : List (Bytes × FileTree)) :
    ∃ sorted : List (Bytes × List (List Bytes × Met)),
      sorted.Perm (entries.map fun e => (e.1, e.2.walk fun names => fault? (e.1 :: names))) ∧
      sorted.Pairwise (fun a b => a.1 ≤ b.1) ∧
      (directory entries).walk fault? =
        sorted.flatMap fun e => e.2.map fun f => (e.1 :: f.1, f.2) := by
  let le : Bytes × List (List Bytes × Met) → Bytes × List (List Bytes × Met) → Bool :=
    fun a b => a.1 ≤ b.1
  have htrans : ∀ a b c, le a b → le b c → le a c := fun a b c hab hbc =>
    decide_eq_true (List.le_trans (of_decide_eq_true hab) (of_decide_eq_true hbc))
  have htotal : ∀ a b, le a b || le b a := fun a b => by
    simpa only [le, Bool.or_eq_true, decide_eq_true_eq] using List.le_total a.1 b.1
  have hsorted := List.pairwise_mergeSort htrans htotal
    (entries.map fun e => (e.1, e.2.walk fun names => fault? (e.1 :: names)))
  refine ⟨_, List.mergeSort_perm _ le, hsorted.imp of_decide_eq_true, ?_⟩
  rw [walk, h, walkEntries_eq_map]

theorem mem_walk_directory_iff (h : fault? [] = none) {entries : List (Bytes × FileTree)}
    {f : List Bytes × Met} :
    f ∈ (directory entries).walk fault? ↔
      ∃ e ∈ entries, ∃ g ∈ e.2.walk (fun names => fault? (e.1 :: names)),
        (e.1 :: g.1, g.2) = f := by
  obtain ⟨sorted, hperm, -, hwalk⟩ := walk_directory h entries
  simp only [hwalk, List.mem_flatMap, hperm.mem_iff, List.mem_map, exists_exists_and_eq_and]

/-! ### What is met -/

/-- What is met at some names stands there: the file, or a directory that cannot be listed. -/
def Met.StandsAt (fault? : List Bytes → Option PathFault) (t : FileTree) (names : List Bytes) :
    Met → Prop
  | file content => t.get? names = some (.file content)
  | unlisted fault => (∃ entries, t.get? names = some (.directory entries)) ∧
      fault? names = some fault

/-- The walk comes to some names: all directories above can be listed. -/
def IsReached (fault? : List Bytes → Option PathFault) (names : List Bytes) : Prop :=
  ∀ above below, names = above ++ below → below ≠ [] → fault? above = none

theorem isReached_nil : IsReached fault? [] := by
  intro above below hnames hbelow
  exact absurd (List.append_eq_nil_iff.mp hnames.symm).2 hbelow

theorem isReached_cons_iff {name : Bytes} {rest : List Bytes} :
    IsReached fault? (name :: rest) ↔
      fault? [] = none ∧ IsReached (fun names => fault? (name :: names)) rest := by
  constructor
  · intro h
    refine ⟨h [] _ rfl (List.cons_ne_nil _ _), fun above below hrest hbelow => ?_⟩
    exact h (name :: above) below (congrArg _ hrest) hbelow
  · rintro ⟨htop, h⟩ above below hnames hbelow
    cases above with
    | nil => exact htop
    | cons first above =>
      obtain ⟨rfl, hrest⟩ := List.cons_eq_cons.mp hnames
      exact h above below hrest hbelow

/-- Where the walk does not come to, it has been stopped above. -/
theorem isReached_or_exists (fault? : List Bytes → Option PathFault) (names : List Bytes) :
    IsReached fault? names ∨ ∃ above below fault, names = above ++ below ∧ below ≠ [] ∧
      IsReached fault? above ∧ fault? above = some fault := by
  induction names generalizing fault? with
  | nil => exact .inl isReached_nil
  | cons name rest ih =>
    cases hfault : fault? [] with
    | some fault =>
      exact .inr ⟨[], name :: rest, fault, rfl, List.cons_ne_nil _ _, isReached_nil, hfault⟩
    | none =>
      rcases ih (fun names => fault? (name :: names)) with hreached | hstopped
      · exact .inl (isReached_cons_iff.mpr ⟨hfault, hreached⟩)
      · obtain ⟨above, below, fault, rfl, hbelow, hreached, hstop⟩ := hstopped
        exact .inr ⟨name :: above, below, fault, rfl, hbelow,
          isReached_cons_iff.mpr ⟨hfault, hreached⟩, hstop⟩

theorem Met.standsAt_cons_iff {entries : List (Bytes × FileTree)} {name : Bytes}
    {rest : List Bytes} {m : Met} :
    m.StandsAt fault? (directory entries) (name :: rest) ↔
      ∃ t, entries.lookup name = some t ∧
        m.StandsAt (fun names => fault? (name :: names)) t rest := by
  have hget (u : FileTree) : (directory entries).get? (name :: rest) = some u ↔
      ∃ t, entries.lookup name = some t ∧ t.get? rest = some u := Option.bind_eq_some_iff
  cases m with
  | file content => exact hget _
  | unlisted fault =>
    constructor
    · rintro ⟨⟨entries', h⟩, hfault⟩
      obtain ⟨t, ht, h⟩ := (hget _).mp h
      exact ⟨t, ht, ⟨entries', h⟩, hfault⟩
    · rintro ⟨t, ht, ⟨entries', h⟩, hfault⟩
      exact ⟨⟨entries', (hget _).mpr ⟨t, ht, h⟩⟩, hfault⟩

/-- The walk over a proper tree meets exactly what stands where it comes to. -/
theorem Proper.mem_walk_iff {t : FileTree} (h : t.Proper) {names : List Bytes} {m : Met} :
    (names, m) ∈ t.walk fault? ↔ m.StandsAt fault? t names ∧ IsReached fault? names := by
  induction h generalizing names fault? with
  | file content =>
    rw [walk_file, List.mem_singleton]
    cases m with
    | file content' =>
      simp only [Met.StandsAt, get?_file_eq_some_iff, Prod.mk.injEq, Met.file.injEq, file.injEq]
      refine ⟨?_, fun h => h.1⟩
      rintro ⟨rfl, rfl⟩
      exact ⟨⟨rfl, rfl⟩, isReached_nil⟩
    | unlisted fault => simp [Met.StandsAt]
  | link target =>
    rw [walk_link]
    cases m <;> simp [Met.StandsAt]
  | @directory entries nodup isName below ih =>
    cases hfault : fault? [] with
    | some fault =>
      rw [walk_directory_of_fault hfault, List.mem_singleton]
      cases names with
      | nil =>
        cases m <;> simp [Met.StandsAt, FileTree.get?, isReached_nil, hfault, eq_comm]
      | cons name rest => simp [isReached_cons_iff, hfault]
    | none =>
      rw [mem_walk_directory_iff hfault]
      cases names with
      | nil => cases m <;> simp [Met.StandsAt, FileTree.get?, hfault]
      | cons name rest =>
        rw [Met.standsAt_cons_iff, isReached_cons_iff]
        -- The walk enters every entry, looking up a name only the first one that has it.
        constructor
        · rintro ⟨e, he, g, hg, hmet⟩
          cases hmet
          obtain ⟨hstands, hreached⟩ := (ih e he).mp hg
          exact ⟨⟨e.2, (Entries.lookup_eq_some_iff nodup).mpr he, hstands⟩, hfault, hreached⟩
        · rintro ⟨⟨u, hu, hstands⟩, -, hreached⟩
          have hmem := Entries.mem_of_lookup hu
          exact ⟨(name, u), hmem, (rest, m), (ih _ hmem).mpr ⟨hstands, hreached⟩, rfl⟩

/-- The walk over a proper tree meets everything in the order of the names on the way to it. -/
theorem Proper.pairwise_walk {t : FileTree} (h : t.Proper) :
    (t.walk fault?).Pairwise fun f g => f.1 < g.1 := by
  induction h generalizing fault? with
  | file content =>
    rw [walk_file]
    exact List.pairwise_singleton _ _
  | link target =>
    rw [walk_link]
    exact List.Pairwise.nil
  | @directory entries nodup isName below ih =>
    cases hfault : fault? [] with
    | some fault =>
      rw [walk_directory_of_fault hfault]
      exact List.pairwise_singleton _ _
    | none =>
      obtain ⟨sorted, hperm, hsorted, hwalk⟩ := walk_directory hfault entries
      have hnames : (sorted.map Prod.fst).Nodup := by
        rw [(hperm.map Prod.fst).nodup_iff, List.map_map]
        exact nodup
      have hlt : sorted.Pairwise fun a b => a.1 < b.1 :=
        (hsorted.and (List.pairwise_map.mp hnames)).imp fun hab =>
          Std.lt_of_le_of_ne hab.1 hab.2
      rw [hwalk, List.pairwise_flatMap]
      constructor
      · -- Below one entry the order is that of the rest of the way.
        intro e he
        obtain ⟨e', he', rfl⟩ := List.mem_map.mp (hperm.mem_iff.mp he)
        rw [List.pairwise_map]
        exact (ih e' he').imp fun hfg => List.cons_lt_cons_iff.mpr (.inr ⟨rfl, hfg⟩)
      · -- What is below two entries differs in the first name.
        refine hlt.imp fun {a b} hab f hf g hg => ?_
        obtain ⟨f', -, rfl⟩ := List.mem_map.mp hf
        obtain ⟨g', -, rfl⟩ := List.mem_map.mp hg
        exact List.cons_lt_cons_iff.mpr (.inl hab)

end FileTree

end DocSite
