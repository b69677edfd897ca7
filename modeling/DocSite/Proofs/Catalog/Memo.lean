import DocSite.Proofs.Catalog.Run

/-!
# A catalog keeps its snapshot until it is told to forget it

`memoizes` says what every run of requests keeps, from a catalog that is new. Its parts rest on two
invariants of runs beside those of `Proofs/Catalog/Run`:

* `Numbered`: the snapshot has a number below that of the next one.
* `NumberedFrom n`: every snapshot that is there, or will be taken, has at least the number `n`.
-/

namespace DocSite.Catalog

/-! ### Numbers of snapshots -/

/-- The snapshot was taken before the next one will be. -/
def Numbered (c : Catalog) : Prop :=
  ∀ s, c.snapshot = some s → s.number < c.taken

/-- The snapshot and all later ones have at least the number `n`. -/
def NumberedFrom (n : ℕ) (c : Catalog) : Prop :=
  n ≤ c.taken ∧ ∀ s, c.snapshot = some s → n ≤ s.number

namespace Performs

variable {c c' : Catalog} {r : Request} {a : Answer} {n : ℕ}

theorem taken_le (h : Performs c r a c') : c.taken ≤ c'.taken := by
  cases h with
  | fetched => exact Nat.le_succ _
  | failed | kept | invalidated | observed | replaced => exact Nat.le_refl _

theorem numbered (h : Performs c r a c') (hc : c.Numbered) : c'.Numbered := by
  intro s hs
  cases h with
  | fetched =>
    obtain rfl := Option.some.inj hs
    exact Nat.lt_succ_self _
  | failed | invalidated => cases hs
  | kept | observed | replaced => exact hc s hs

theorem numberedFrom (h : Performs c r a c') (hc : c.NumberedFrom n) : c'.NumberedFrom n := by
  obtain ⟨hn, hsnap⟩ := hc
  cases h with
  | fetched =>
    refine ⟨Nat.le_succ_of_le hn, fun s hs => ?_⟩
    obtain rfl := Option.some.inj hs
    exact hn
  | failed | invalidated => exact ⟨hn, fun s hs => by cases hs⟩
  | kept | observed | replaced => exact ⟨hn, hsnap⟩

/-- After an invalidation there is no snapshot with a smaller number than the next one had. -/
theorem numberedFrom_of_invalidates (h : Performs c r a c') (hr : r.invalidates) :
    c'.NumberedFrom c.taken := by
  cases h with
  | fetched =>
    refine ⟨Nat.le_succ _, fun s hs => ?_⟩
    obtain rfl := Option.some.inj hs
    exact Nat.le_refl _
  | failed | invalidated => exact ⟨Nat.le_refl _, fun s hs => by cases hs⟩
  | kept | observed | replaced => cases hr

end Performs

theorem taken_le_run (c : Catalog) (rs : List Request) : c.taken ≤ (c.run rs).taken := by
  induction rs generalizing c with
  | nil => exact Nat.le_refl _
  | cons r rs ih => exact Nat.le_trans (performs c r).taken_le (ih _)

theorem numbered_run {c : Catalog} (rs : List Request) (hc : c.Numbered) : (c.run rs).Numbered := by
  induction rs generalizing c with
  | nil => exact hc
  | cons r rs ih => exact ih ((performs c r).numbered hc)

theorem numberedFrom_run {c : Catalog} {n : ℕ} (rs : List Request) (hc : c.NumberedFrom n) :
    (c.run rs).NumberedFrom n := by
  induction rs generalizing c with
  | nil => exact hc
  | cons r rs ih => exact ih ((performs c r).numberedFrom hc)

/-- A snapshot that is answered after an invalidation has a greater number than one from before. -/
theorem number_lt_of_invalidates {c : Catalog} {rs : List Request} {r : Request} {s t : Snapshot}
    (hc : c.Numbered) (hs : c.snapshot = some s) (hr : ∃ q ∈ rs ++ [r], q.invalidates)
    (ht : (c.run rs).answer r = .listing (.ok t)) : s.number < t.number := by
  -- Numbers grow up to the invalidation and are bounded below by its count from there on.
  obtain ⟨q, hq, hinv⟩ := hr
  obtain ⟨u, v, huv⟩ := List.append_of_mem hq
  have hlt : s.number < (c.run u).taken := Nat.lt_of_lt_of_le (hc s hs) (taken_le_run c u)
  have hfrom : (((c.run u).next q).run v).NumberedFrom (c.run u).taken :=
    numberedFrom_run v ((performs (c.run u) q).numberedFrom_of_invalidates hinv)
  have hend : ((c.run u).next q).run v = (c.run rs).next r := by
    rw [← run_cons, ← run_append, ← huv, run_append]
    rfl
  rw [hend] at hfrom
  exact Nat.lt_of_lt_of_le hlt (hfrom.2 t (performs_of_answer ht).snapshot_of_ok)

/-! ### Failures -/

/-- An empty catalog stays empty until something is loaded. -/
theorem snapshot_run_of_none {c : Catalog} {rs : List Request} (hs : c.snapshot = none)
    (hrs : ∀ r ∈ rs, ¬ r.loads) : (c.run rs).snapshot = none := by
  induction rs generalizing c with
  | nil => exact hs
  | cons r rs ih =>
    obtain ⟨hr, hrs⟩ := List.forall_mem_cons.mp hrs
    have hasks : ¬ c.asks r := by
      cases r with
      | load | reload => exact absurd rfl hr
      | invalidate | isLoaded | replaceSource => exact Bool.false_ne_true
    refine ih ?_ hrs
    rcases (performs c r).snapshot_of_not_asks hasks with h | h
    · rw [h, hs]
    · exact h

/-! ### Requests that ask the source -/

/-- A request is a reload. -/
def Request.isReload : Request → Bool
  | .reload => true
  | _ => false

/-- A load of an empty catalog. -/
def Entry.loadsEmpty (x : Entry) : Bool :=
  match x.request with
  | .load => !x.before.isLoaded
  | _ => false

theorem countP_asks_history (c : Catalog) (rs : List Request) :
    (c.history rs).countP Entry.asks =
      rs.countP Request.isReload + (c.history rs).countP Entry.loadsEmpty := by
  induction rs generalizing c with
  | nil => rfl
  | cons r rs ih =>
    have hr : (if Entry.asks ⟨c, r⟩ then 1 else 0) =
        (if r.isReload then 1 else 0) + if Entry.loadsEmpty ⟨c, r⟩ then 1 else 0 := by
      cases r <;> simp [Entry.asks, asks, Request.isReload, Entry.loadsEmpty]
    rw [history, List.countP_cons, List.countP_cons, List.countP_cons, ih, hr]
    omega

/-! ### Memoization -/

/-- **A catalog memoizes the listing of its source.** From a catalog that is new:

* a snapshot is the listing of the source as it was when the source was last asked;
* two snapshots that are answered are the same if nothing was invalidated from the first to the
  second (a reload is an invalidation before its own answer), and have different numbers else;
* the source was asked once for each reload and each load of an empty catalog;
* after a failure the catalog is empty, so that the next load asks the source again and is answered
  by its listing if there is one. -/
theorem memoizes (order : CategoryOrder) (source : Fetched) :
    let c := Catalog.new order source
    (∀ requests s, (c.run requests).snapshot = some s →
      ∃ old r later, requests = old ++ r :: later ∧ (c.run old).asks r ∧
        (∀ x ∈ (c.run (old ++ [r])).history later, ¬ x.asks) ∧
        collect order (c.run old).source = .ok s.documents) ∧
    (∀ old first between second s t,
      (c.run old).answer first = .listing (.ok s) →
      (c.run (old ++ first :: between)).answer second = .listing (.ok t) →
        ((∀ r ∈ between ++ [second], ¬ r.invalidates) → t = s) ∧
        ((∃ r ∈ between ++ [second], r.invalidates) → s.number < t.number)) ∧
    (∀ requests, (c.run requests).fetches =
      requests.countP Request.isReload + (c.history requests).countP Entry.loadsEmpty) ∧
    (∀ old r e, (c.run old).answer r = .listing (.error e) →
      (c.run (old ++ [r])).snapshot = none ∧
      ∀ between second, (∀ q ∈ between, ¬ q.loads) → second.loads →
        (c.run (old ++ r :: between)).asks second ∧
        ∀ docs, collect order (c.run (old ++ r :: between)).source = .ok docs →
          ∃ n, (c.run (old ++ r :: between)).answer second = .listing (.ok ⟨n, docs⟩)) := by
  intro c
  have hnew : c.Numbered := fun s hs => by cases hs
  refine ⟨fun requests s hs => ?_, fun old first between second s t hs ht => ?_,
    fun requests => ?_, fun old r e he => ?_⟩
  · rcases exists_fetch_of_snapshot hs with ⟨hs, -⟩ | ⟨old, r, later, rfl, hr, ha, hlater⟩
    · cases hs
    · refine ⟨old, r, later, rfl, hr, by rwa [run_append], ?_⟩
      rcases (performs _ r).answer_of_asks hr with ⟨docs, hdocs, ha'⟩ | ⟨e, -, ha'⟩
      · rw [ha] at ha'
        cases ha'
        rwa [order_run] at hdocs
      · rw [ha] at ha'
        cases ha'
  · rw [run_append, run_cons] at ht
    refine ⟨eq_of_answer hs ht, fun hinv => ?_⟩
    have hs' : ((c.run old).next first).snapshot = some s := (performs_of_answer hs).snapshot_of_ok
    exact number_lt_of_invalidates ((performs _ _).numbered (numbered_run old hnew)) hs' hinv ht
  · rw [fetches_run, countP_asks_history]
    exact Nat.zero_add _
  · have hnone : ((c.run old).next r).snapshot = none := (performs_of_answer he).snapshot_of_error
    refine ⟨by rwa [run_append], fun between second hbetween hsecond => ?_⟩
    rw [run_append, run_cons]
    have hasks := asks_of_none (snapshot_run_of_none hnone hbetween) hsecond
    refine ⟨hasks, fun docs hdocs => ⟨_, answer_of_ok hasks ?_⟩⟩
    rw [order_run, (performs _ r).order_eq, order_run]
    exact hdocs

end DocSite.Catalog
