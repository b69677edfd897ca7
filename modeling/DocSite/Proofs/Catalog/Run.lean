import DocSite.Catalog.Basic
import Mathlib.Data.List.Basic
import Mathlib.Tactic.Common

/-!
# Runs of a catalog

A run performs requests one after the other; between them the source may be replaced.

* `Performs` lists what a request can do to a catalog, and `performs` says that it does nothing
  else. Every other fact about one request is read off it.
* `exists_fetch_of_snapshot`: a snapshot was there before a run, or some request of the run fetched
  it and no later one asked the source.
* `snapshot_run`: a snapshot stays as long as nothing invalidates it, and until then it is what
  requests are answered (`eq_of_answer`).
-/

namespace DocSite.Catalog

/-! ### Requests -/

/-- What can happen to a catalog: an operation, or the replacement of its source. -/
inductive Request where
  | load
  | reload
  | invalidate
  | isLoaded
  | replaceSource (source : Fetched)

/-- What a request is answered. -/
inductive Answer where
  | listing (result : Except SiteError Snapshot)
  | loaded (b : Bool)
  | done

namespace Request

/-- A request that is answered by a listing. -/
def loads : Request → Bool
  | load | reload => true
  | _ => false

/-- A request that forgets the snapshot, at least at first. -/
def invalidates : Request → Bool
  | reload | invalidate => true
  | _ => false

end Request

/-- The answer to a request, and the catalog afterwards. -/
def perform (c : Catalog) : Request → Answer × Catalog
  | .load => (.listing c.load.1, c.load.2)
  | .reload => (.listing c.reload.1, c.reload.2)
  | .invalidate => (.done, c.invalidate)
  | .isLoaded => (.loaded c.isLoaded, c)
  | .replaceSource source => (.done, c.replaceSource source)

/-- The answer to a request. -/
def answer (c : Catalog) (r : Request) : Answer :=
  (c.perform r).1

/-- The catalog after a request. -/
def next (c : Catalog) (r : Request) : Catalog :=
  (c.perform r).2

/-- Whether a request asks the source: a reload always does, a load of an empty catalog too. -/
def asks (c : Catalog) : Request → Bool
  | .reload => true
  | .load => !c.isLoaded
  | _ => false

/-! ### What one request does -/

/-- Every way in which a request can go. -/
inductive Performs (c : Catalog) : Request → Answer → Catalog → Prop where
  | fetched {r : Request} {docs : List Document} (hr : c.asks r)
      (hdocs : collect c.order c.source = .ok docs) :
      Performs c r (.listing (.ok ⟨c.taken, docs⟩))
        { c with
          snapshot := some ⟨c.taken, docs⟩
          fetches := c.fetches + 1
          taken := c.taken + 1 }
  | failed {r : Request} {e : SiteError} (hr : c.asks r)
      (he : collect c.order c.source = .error e) :
      Performs c r (.listing (.error e)) { c with snapshot := none, fetches := c.fetches + 1 }
  | kept {s : Snapshot} (hs : c.snapshot = some s) : Performs c .load (.listing (.ok s)) c
  | invalidated : Performs c .invalidate .done c.invalidate
  | observed : Performs c .isLoaded (.loaded c.isLoaded) c
  | replaced (source : Fetched) : Performs c (.replaceSource source) .done (c.replaceSource source)

theorem load_of_ok {c : Catalog} {docs : List Document} (hs : c.snapshot = none)
    (hdocs : collect c.order c.source = .ok docs) :
    c.load = (.ok ⟨c.taken, docs⟩,
      { c with
        snapshot := some ⟨c.taken, docs⟩
        fetches := c.fetches + 1
        taken := c.taken + 1 }) := by
  rw [load, hs, hdocs]

theorem load_of_error {c : Catalog} {e : SiteError} (hs : c.snapshot = none)
    (he : collect c.order c.source = .error e) :
    c.load = (.error e, { c with snapshot := none, fetches := c.fetches + 1 }) := by
  rw [load, hs, he]

/-- A request does what one of the ways of `Performs` says. -/
theorem performs (c : Catalog) (r : Request) : Performs c r (c.answer r) (c.next r) := by
  rw [answer, next]
  cases r with
  | load =>
    rw [perform]
    cases hs : c.snapshot with
    | some s =>
      rw [load, hs]
      exact .kept hs
    | none =>
      have hr : c.asks .load := by rw [asks, isLoaded, hs]; rfl
      cases hdocs : collect c.order c.source with
      | ok docs => rw [load_of_ok hs hdocs]; exact .fetched hr hdocs
      | error e => rw [load_of_error hs hdocs]; exact .failed hr hdocs
  | reload =>
    have hs : c.invalidate.snapshot = none := rfl
    rw [perform, reload]
    cases hdocs : collect c.order c.source with
    | ok docs => rw [load_of_ok hs hdocs]; exact .fetched rfl hdocs
    | error e => rw [load_of_error hs hdocs]; exact .failed rfl hdocs
  | invalidate => exact .invalidated
  | isLoaded => exact .observed
  | replaceSource source => exact .replaced source

theorem performs_of_answer {c : Catalog} {r : Request} {a : Answer} (h : c.answer r = a) :
    Performs c r a (c.next r) :=
  h ▸ performs c r

/-- Anything that loads asks the source of an empty catalog. -/
theorem asks_of_none {c : Catalog} {r : Request} (hs : c.snapshot = none) (hr : r.loads) :
    c.asks r := by
  cases r with
  | load => rw [asks, isLoaded, hs]; rfl
  | reload => rfl
  | invalidate | isLoaded | replaceSource => cases hr

namespace Performs

variable {c c' : Catalog} {r : Request} {a : Answer} {s : Snapshot} {e : SiteError}

theorem order_eq (h : Performs c r a c') : c'.order = c.order := by
  cases h <;> rfl

/-- The source changes only when it is replaced. -/
theorem source_eq (h : Performs c r a c') :
    c'.source = c.source ∨ r = .replaceSource c'.source := by
  cases h with
  | replaced => exact .inr rfl
  | fetched | failed | kept | invalidated | observed => exact .inl rfl

/-- A request that is answered by a snapshot leaves it in the catalog. -/
theorem snapshot_of_ok (h : Performs c r (.listing (.ok s)) c') : c'.snapshot = some s := by
  cases h with
  | fetched => rfl
  | kept hs => exact hs

/-- A request that is answered by an error leaves no snapshot. -/
theorem snapshot_of_error (h : Performs c r (.listing (.error e)) c') : c'.snapshot = none := by
  cases h
  rfl

/-- A request that asks the source is answered by the source's listing. -/
theorem answer_of_asks (h : Performs c r a c') (hr : c.asks r) :
    (∃ docs, collect c.order c.source = .ok docs ∧ a = .listing (.ok ⟨c.taken, docs⟩)) ∨
      ∃ e, collect c.order c.source = .error e ∧ a = .listing (.error e) := by
  cases h with
  | fetched _ hdocs => exact .inl ⟨_, hdocs, rfl⟩
  | failed _ he => exact .inr ⟨_, he, rfl⟩
  | kept hs => simp [asks, isLoaded, hs] at hr
  | invalidated => cases hr
  | observed => cases hr
  | replaced => cases hr

/-- Each request that asks the source counts once. -/
theorem fetches_eq (h : Performs c r a c') : c'.fetches = c.fetches + (c.asks r).toNat := by
  cases h with
  | fetched hr => rw [hr]; rfl
  | failed hr => rw [hr]; rfl
  | kept hs => simp [asks, isLoaded, hs]
  | invalidated => rfl
  | observed => rfl
  | replaced => rfl

/-- A request that does not ask the source leaves the snapshot or forgets it. -/
theorem snapshot_of_not_asks (h : Performs c r a c') (hr : ¬ c.asks r) :
    c'.snapshot = c.snapshot ∨ c'.snapshot = none := by
  cases h with
  | fetched hr' => exact absurd hr' hr
  | failed hr' => exact absurd hr' hr
  | kept | observed | replaced => exact .inl rfl
  | invalidated => exact .inr rfl

/-- A snapshot that is not invalidated stays and is not asked for again. -/
theorem keeps (h : Performs c r a c') (hs : c.snapshot = some s) (hr : ¬ r.invalidates) :
    c'.snapshot = some s ∧ ¬ c.asks r := by
  have hasks : ¬ c.asks r := by
    cases r with
    | load => simp [asks, isLoaded, hs]
    | reload => exact absurd rfl hr
    | invalidate | isLoaded | replaceSource => exact Bool.false_ne_true
  refine ⟨?_, hasks⟩
  cases h with
  | fetched hr' => exact absurd hr' hasks
  | failed hr' => exact absurd hr' hasks
  | kept | observed | replaced => exact hs
  | invalidated => exact absurd rfl hr

end Performs

theorem answer_of_ok {c : Catalog} {r : Request} {docs : List Document} (hr : c.asks r)
    (hdocs : collect c.order c.source = .ok docs) :
    c.answer r = .listing (.ok ⟨c.taken, docs⟩) := by
  rcases (performs c r).answer_of_asks hr with ⟨docs', hdocs', ha⟩ | ⟨e, he, -⟩
  · obtain rfl := Except.ok.inj (hdocs.symm.trans hdocs')
    exact ha
  · cases hdocs.symm.trans he

theorem answer_of_error {c : Catalog} {r : Request} {e : SiteError} (hr : c.asks r)
    (he : collect c.order c.source = .error e) : c.answer r = .listing (.error e) := by
  rcases (performs c r).answer_of_asks hr with ⟨docs, hdocs, -⟩ | ⟨e', he', ha⟩
  · cases he.symm.trans hdocs
  · obtain rfl := Except.error.inj (he.symm.trans he')
    exact ha

/-! ### Runs -/

/-- The catalog after a list of requests. -/
def run (c : Catalog) (rs : List Request) : Catalog :=
  rs.foldl next c

@[simp] theorem run_nil (c : Catalog) : c.run [] = c :=
  rfl

@[simp] theorem run_cons (c : Catalog) (r : Request) (rs : List Request) :
    c.run (r :: rs) = (c.next r).run rs :=
  rfl

@[simp] theorem run_append (c : Catalog) (rs rs' : List Request) :
    c.run (rs ++ rs') = (c.run rs).run rs' :=
  List.foldl_append

/-- A request of a run with the catalog that it was made to. -/
structure Entry where
  before : Catalog
  request : Request

namespace Entry

/-- The request asks the source. -/
def asks (x : Entry) : Bool :=
  x.before.asks x.request

/-- The request asks the source, and a listing can be made of what the source answers. -/
def populates (x : Entry) : Bool :=
  x.asks && (collect x.before.order x.before.source).isOk

/-- The request forgets a snapshot. -/
def discards (x : Entry) : Bool :=
  x.request.invalidates && x.before.isLoaded

end Entry

/-- The requests of a run in order. -/
def history (c : Catalog) : List Request → List Entry
  | [] => []
  | r :: rs => ⟨c, r⟩ :: history (c.next r) rs

theorem order_run (c : Catalog) (rs : List Request) : (c.run rs).order = c.order := by
  induction rs generalizing c with
  | nil => rfl
  | cons r rs ih => rw [run_cons, ih, (performs c r).order_eq]

/-- The source was asked once for each request that asks it. -/
theorem fetches_run (c : Catalog) (rs : List Request) :
    (c.run rs).fetches = c.fetches + (c.history rs).countP Entry.asks := by
  induction rs generalizing c with
  | nil => rfl
  | cons r rs ih =>
    rw [run_cons, ih, (performs c r).fetches_eq, history, List.countP_cons, Entry.asks]
    cases c.asks r with
    | false => rfl
    | true => simp only [Bool.toNat_true, if_true]; omega

/-- A snapshot stays, and the source is not asked, as long as nothing is invalidated. -/
theorem snapshot_run {c : Catalog} {s : Snapshot} {rs : List Request} (hs : c.snapshot = some s)
    (hrs : ∀ r ∈ rs, ¬ r.invalidates) :
    (c.run rs).snapshot = some s ∧ ∀ x ∈ c.history rs, ¬ x.asks := by
  induction rs generalizing c with
  | nil => exact ⟨hs, fun _ hx => absurd hx List.not_mem_nil⟩
  | cons r rs ih =>
    obtain ⟨hr, hrs⟩ := List.forall_mem_cons.mp hrs
    obtain ⟨hs', hasks⟩ := (performs c r).keeps hs hr
    obtain ⟨hrun, hlater⟩ := ih hs' hrs
    exact ⟨hrun, List.forall_mem_cons.mpr ⟨hasks, hlater⟩⟩

/-- Two snapshots that are answered are the same if nothing is invalidated after the first. -/
theorem eq_of_answer {c : Catalog} {r q : Request} {rs : List Request} {s t : Snapshot}
    (hs : c.answer r = .listing (.ok s)) (ht : ((c.next r).run rs).answer q = .listing (.ok t))
    (hkept : ∀ x ∈ rs ++ [q], ¬ x.invalidates) : t = s := by
  obtain ⟨hend, -⟩ := snapshot_run (performs_of_answer hs).snapshot_of_ok hkept
  rw [run_append] at hend
  exact Option.some.inj ((performs_of_answer ht).snapshot_of_ok.symm.trans hend)

/-- A snapshot was there before the run, or a request of the run fetched it; no later request asked
the source. -/
theorem exists_fetch_of_snapshot {c : Catalog} {s : Snapshot} {rs : List Request}
    (h : (c.run rs).snapshot = some s) :
    (c.snapshot = some s ∧ ∀ x ∈ c.history rs, ¬ x.asks) ∨
      ∃ old r later, rs = old ++ r :: later ∧ (c.run old).asks r ∧
        (c.run old).answer r = .listing (.ok s) ∧
        ∀ x ∈ ((c.run old).next r).history later, ¬ x.asks := by
  induction rs generalizing c with
  | nil => exact .inl ⟨h, fun _ hx => absurd hx List.not_mem_nil⟩
  | cons r rs ih =>
    rcases ih h with ⟨hs, hlater⟩ | ⟨old, r', later, rfl, hrest⟩
    · by_cases hr : c.asks r
      · -- What the request stored is what it answered.
        refine .inr ⟨[], r, rs, rfl, hr, ?_, hlater⟩
        rcases (performs c r).answer_of_asks hr with ⟨docs, -, ha⟩ | ⟨e, -, ha⟩
        · have hs' := (performs_of_answer ha).snapshot_of_ok
          rw [run_nil, ha, Option.some.inj (hs.symm.trans hs')]
        · have hs' := (performs_of_answer ha).snapshot_of_error
          rw [hs'] at hs
          cases hs
      · rcases (performs c r).snapshot_of_not_asks hr with heq | hnone
        · exact .inl ⟨heq ▸ hs, List.forall_mem_cons.mpr ⟨hr, hlater⟩⟩
        · rw [hnone] at hs
          cases hs
    · exact .inr ⟨r :: old, r', later, rfl, hrest⟩

end DocSite.Catalog
