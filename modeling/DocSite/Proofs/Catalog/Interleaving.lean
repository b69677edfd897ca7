import DocSite.Proofs.Catalog.Run

/-!
# A catalog that many threads share

Every part of a call that holds the lock is one step. A reload has two such parts, `beginReload` and
`endReload`, and other threads may take steps between them; the source may be replaced between any
two steps. An interleaving takes the steps of each thread in the order of its program and is
otherwise free (`Interleaving`).

`interleaving_invariants` says what every interleaving keeps. Its parts:

* `exists_beginReload`: the second half of a reload has its own first half before it.
* `countP_populates_add`: every listing that is stored was discarded, or is there at the end.
* `after_of_fails` and `fetches_after_of_succeeds`: loads of a source that always fails, and of one
  that never does.
-/

namespace DocSite.Catalog

/-! ### Threads and their steps -/

/-- A call that a thread makes. -/
inductive Call where
  | load
  | reload
  | invalidate
  | isLoaded

/-- A part of a call that holds the lock. -/
inductive Action where
  | load
  | invalidate
  | isLoaded
  | beginReload
  | endReload

/-- The parts of a call in order. -/
def Call.actions : Call → List Action
  | .load => [.load]
  | .reload => [.beginReload, .endReload]
  | .invalidate => [.invalidate]
  | .isLoaded => [.isLoaded]

/-- What an action requests of the catalog. -/
def Action.request : Action → Request
  | .load | .endReload => .load
  | .invalidate | .beginReload => .invalidate
  | .isLoaded => .isLoaded

variable {ι : Type}

/-- A step of a thread, or a replacement of the source. -/
inductive Step (ι : Type) where
  | act (thread : ι) (action : Action)
  | replaceSource (source : Fetched)

namespace Step

/-- What a step requests of the catalog. -/
def request : Step ι → Request
  | act _ a => a.request
  | replaceSource source => .replaceSource source

/-- The action of a thread's own step. -/
def actionOf? [DecidableEq ι] (t : ι) : Step ι → Option Action
  | act u a => if u = t then some a else none
  | replaceSource _ => none

/-- A step that is a whole load. -/
def isLoad : Step ι → Bool
  | act _ .load => true
  | _ => false

end Step

/-- The actions of one thread among all steps. -/
def actionsOf [DecidableEq ι] (t : ι) (steps : List (Step ι)) : List Action :=
  steps.filterMap (Step.actionOf? t)

/-- Steps of all threads in one order: each thread has got through a part of its program. -/
def Interleaving [DecidableEq ι] (programs : ι → List Call) (steps : List (Step ι)) : Prop :=
  ∀ t, actionsOf t steps <+: (programs t).flatMap Call.actions

/-- The catalog after steps. -/
def after (c : Catalog) (steps : List (Step ι)) : Catalog :=
  c.run (steps.map Step.request)

/-- The requests of steps with the catalogs that they are made to. -/
def stepHistory (c : Catalog) (steps : List (Step ι)) : List Entry :=
  c.history (steps.map Step.request)

theorem after_append (c : Catalog) (old later : List (Step ι)) :
    c.after (old ++ later) = (c.after old).after later := by
  rw [after, List.map_append, run_append]
  rfl

theorem after_cons (c : Catalog) (x : Step ι) (later : List (Step ι)) :
    c.after (x :: later) = (c.next x.request).after later :=
  rfl

/-! ### The two halves of a reload -/

/-- In any part of a thread's program the second half of a reload follows its first half. -/
theorem beginReload_of_endReload {calls : List Call} {l : List Action}
    (h : l ++ [.endReload] <+: calls.flatMap Call.actions) : ∃ l', l = l' ++ [.beginReload] := by
  induction calls generalizing l with
  | nil =>
    rw [List.flatMap_nil, List.prefix_nil] at h
    exact absurd h (List.append_ne_nil_of_right_ne_nil _ (List.cons_ne_nil _ _))
  | cons call calls ih =>
    rw [List.flatMap_cons] at h
    cases call with
    | load | invalidate | isLoaded =>
      cases l with
      | nil => cases (List.cons_prefix_cons.mp h).1
      | cons a l =>
        obtain ⟨l', rfl⟩ := ih (List.cons_prefix_cons.mp h).2
        exact ⟨a :: l', rfl⟩
    | reload =>
      -- The part ends inside this reload, right after it began, or in a later call.
      rcases l with _ | ⟨a, _ | ⟨b, l⟩⟩
      · cases (List.cons_prefix_cons.mp h).1
      · obtain ⟨rfl, -⟩ := List.cons_prefix_cons.mp h
        exact ⟨[], rfl⟩
      · obtain ⟨-, h⟩ := List.cons_prefix_cons.mp h
        obtain ⟨l', rfl⟩ := ih (List.cons_prefix_cons.mp h).2
        exact ⟨a :: b :: l', rfl⟩

/-- The second half of a reload has the first half of the same reload before it. -/
theorem exists_beginReload [DecidableEq ι] {programs : ι → List Call} {t : ι}
    {old later : List (Step ι)}
    (h : Interleaving programs (old ++ .act t .endReload :: later)) :
    ∃ before gap, old = before ++ .act t .beginReload :: gap ∧ actionsOf t gap = [] := by
  have hpre : actionsOf t old ++ [.endReload] <+: (programs t).flatMap Call.actions := by
    refine List.IsPrefix.trans ?_ (h t)
    rw [actionsOf, actionsOf, List.filterMap_append, List.filterMap_cons]
    simp only [Step.actionOf?, if_true]
    rw [List.prefix_append_right_inj]
    exact List.prefix_append [_] _
  -- The thread's last action before this one is found again among the steps of all threads.
  obtain ⟨l', hl⟩ := beginReload_of_endReload hpre
  obtain ⟨u, v, rfl, hu, hv⟩ := List.filterMap_eq_append_iff.mp hl
  obtain ⟨skipped, x, gap, rfl, hskipped, hx, hgap⟩ := List.filterMap_eq_cons_iff.mp hv
  cases x with
  | replaceSource => cases hx
  | act w a =>
    rw [Step.actionOf?] at hx
    split_ifs at hx with hw
    cases hx
    exact ⟨u ++ skipped, gap, by simp [hw], hgap⟩

/-! ### Listings that are stored and discarded -/

theorem discards_of_asks {c : Catalog} {r : Request} (hr : c.asks r) :
    Entry.discards ⟨c, r⟩ = c.isLoaded := by
  cases r with
  | load =>
    rw [asks, Bool.not_eq_true'] at hr
    rw [Entry.discards, hr, Bool.and_false]
  | reload => rfl
  | invalidate | isLoaded | replaceSource => cases hr

theorem Performs.populates_add {c c' : Catalog} {r : Request} {a : Answer}
    (h : Performs c r a c') :
    (if Entry.populates ⟨c, r⟩ then 1 else 0) + c.isLoaded.toNat =
      (if Entry.discards ⟨c, r⟩ then 1 else 0) + c'.isLoaded.toNat := by
  cases h with
  | fetched hr hdocs =>
    have hpop : Entry.populates ⟨c, r⟩ := by rw [Entry.populates, Entry.asks, hr, hdocs]; rfl
    rw [hpop, discards_of_asks hr]
    cases c.isLoaded <;> rfl
  | failed hr he =>
    have hpop : Entry.populates ⟨c, r⟩ = false := by
      rw [Entry.populates, he]
      exact Bool.and_false _
    rw [hpop, discards_of_asks hr]
    cases c.isLoaded <;> rfl
  | kept hs =>
    have hloaded : c.isLoaded = true := by rw [isLoaded, hs]; rfl
    have hpop : Entry.populates ⟨c, .load⟩ = false := by
      rw [Entry.populates, Entry.asks, asks, hloaded]
      rfl
    rw [hpop, hloaded]
    rfl
  | invalidated =>
    have hdis : Entry.discards ⟨c, .invalidate⟩ = c.isLoaded := rfl
    rw [hdis]
    cases c.isLoaded <;> rfl
  | observed => rfl
  | replaced => rfl

/-- Every listing that is stored is discarded, or is there at the end. -/
theorem countP_populates_add (c : Catalog) (rs : List Request) :
    (c.history rs).countP Entry.populates + c.isLoaded.toNat =
      (c.history rs).countP Entry.discards + (c.run rs).isLoaded.toNat := by
  induction rs generalizing c with
  | nil => rfl
  | cons r rs ih =>
    have hstep := (performs c r).populates_add
    have hrest := ih (c.next r)
    rw [history, List.countP_cons, List.countP_cons, run_cons]
    omega

/-- From one answered listing to the next the source is asked at most once, if nothing is
invalidated. -/
theorem countP_asks_le_one {c : Catalog} {r : Request} {s : Snapshot} {rs : List Request}
    (hs : c.answer r = .listing (.ok s)) (hrs : ∀ q ∈ rs, ¬ q.invalidates) :
    (c.history (r :: rs)).countP Entry.asks ≤ 1 := by
  obtain ⟨-, hasks⟩ := snapshot_run (performs_of_answer hs).snapshot_of_ok hrs
  have hrest : ((c.next r).history rs).countP Entry.asks = 0 := List.countP_eq_zero.mpr hasks
  rw [history, List.countP_cons, hrest]
  split_ifs <;> omega

/-! ### Loads only -/

/-- Every answer of the source during the steps has a property. -/
def Serves (P : Fetched → Prop) (c : Catalog) (steps : List (Step ι)) : Prop :=
  P c.source ∧ ∀ source, .replaceSource source ∈ steps → P source

/-- The steps are loads and replacements of the source. -/
def LoadsOnly (steps : List (Step ι)) : Prop :=
  ∀ x ∈ steps, (∃ t, x = .act t .load) ∨ ∃ source, x = .replaceSource source

theorem Interleaving.loadsOnly [DecidableEq ι] {programs : ι → List Call} {steps : List (Step ι)}
    (h : Interleaving programs steps) (hload : ∀ t, ∀ call ∈ programs t, call = .load) :
    LoadsOnly steps := by
  intro x hx
  cases x with
  | replaceSource source => exact .inr ⟨source, rfl⟩
  | act t a =>
    have ha : a ∈ actionsOf t steps :=
      List.mem_filterMap.mpr ⟨_, hx, by rw [Step.actionOf?, if_pos rfl]⟩
    obtain ⟨call, hcall, hmem⟩ := List.mem_flatMap.mp ((h t).subset ha)
    rw [hload t call hcall] at hmem
    obtain rfl := List.mem_singleton.mp hmem
    exact .inl ⟨t, rfl⟩

theorem Serves.next {P : Fetched → Prop} {c : Catalog} {x : Step ι} {steps : List (Step ι)}
    (h : Serves P c (x :: steps)) : Serves P (c.next x.request) steps := by
  refine ⟨?_, fun source hsource => h.2 source (List.mem_cons_of_mem _ hsource)⟩
  rcases (performs c x.request).source_eq with heq | hreq
  · rw [heq]
    exact h.1
  · cases x with
    | act t a => cases a <;> cases hreq
    | replaceSource source => exact h.2 source List.mem_cons_self

theorem Serves.after {P : Fetched → Prop} {c : Catalog} {old later : List (Step ι)}
    (h : Serves P c (old ++ later)) : Serves P (c.after old) later := by
  induction old generalizing c with
  | nil => exact h
  | cons x old ih => exact ih h.next

theorem LoadsOnly.not_invalidates {steps : List (Step ι)} (h : LoadsOnly steps) :
    ∀ r ∈ steps.map Step.request, ¬ r.invalidates := by
  intro r hr
  obtain ⟨x, hx, rfl⟩ := List.mem_map.mp hr
  rcases h x hx with ⟨t, rfl⟩ | ⟨source, rfl⟩ <;> exact Bool.false_ne_true

section Loads

variable {c : Catalog} {steps : List (Step ι)}

/-- Loads of a source that always fails leave the catalog empty, and each asks the source. -/
theorem after_of_fails (hs : c.snapshot = none) (hload : LoadsOnly steps)
    (hfail : Serves (fun f => ∃ e, collect c.order f = .error e) c steps) :
    (c.after steps).snapshot = none ∧
      (c.after steps).fetches = c.fetches + steps.countP Step.isLoad := by
  induction steps generalizing c with
  | nil => exact ⟨hs, rfl⟩
  | cons x steps ih =>
    obtain ⟨hx, hrest⟩ := List.forall_mem_cons.mp hload
    have hstep : (c.next x.request).snapshot = none ∧
        (c.next x.request).fetches = c.fetches + (x.isLoad).toNat := by
      rcases hx with ⟨t, rfl⟩ | ⟨source, rfl⟩
      · have hasks : c.asks .load := asks_of_none hs rfl
        obtain ⟨e, he⟩ := hfail.1
        refine ⟨(performs_of_answer (answer_of_error hasks he)).snapshot_of_error, ?_⟩
        rw [Step.request, Action.request, (performs c .load).fetches_eq, hasks]
        rfl
      · exact ⟨hs, rfl⟩
    have hserves := hfail.next
    rw [← (performs c x.request).order_eq] at hserves
    obtain ⟨hsnap, hfetches⟩ := ih hstep.1 hrest hserves
    refine ⟨hsnap, ?_⟩
    rw [after_cons, hfetches, hstep.2, List.countP_cons]
    cases x.isLoad with
    | false => rfl
    | true => simp only [Bool.toNat_true, if_true]; omega

/-- Each load of a source that always fails is answered by its error. -/
theorem answer_of_fails {old later : List (Step ι)} {t : ι} (hs : c.snapshot = none)
    (hload : LoadsOnly (old ++ .act t .load :: later))
    (hfail : Serves (fun f => ∃ e, collect c.order f = .error e) c
      (old ++ .act t .load :: later)) :
    ∃ e, collect c.order (c.after old).source = .error e ∧
      (c.after old).answer .load = .listing (.error e) := by
  have hold : LoadsOnly old := fun x hx => hload x (List.mem_append_left _ hx)
  have hfailOld : Serves (fun f => ∃ e, collect c.order f = .error e) c old :=
    ⟨hfail.1, fun source hsource => hfail.2 source (List.mem_append_left _ hsource)⟩
  obtain ⟨hnone, -⟩ := after_of_fails hs hold hfailOld
  have hasks : (c.after old).asks .load := asks_of_none hnone rfl
  have horder : (c.after old).order = c.order := order_run _ _
  obtain ⟨e, he⟩ := hfail.after.1
  exact ⟨e, he, answer_of_error hasks (horder ▸ he)⟩

/-- Loads of a source that never fails ask it once. -/
theorem fetches_after_of_succeeds (hs : c.snapshot = none) (hload : LoadsOnly steps)
    (hok : Serves (fun f => ∃ docs, collect c.order f = .ok docs) c steps)
    (hn : 1 ≤ steps.countP Step.isLoad) : (c.after steps).fetches = c.fetches + 1 := by
  induction steps generalizing c with
  | nil => cases hn
  | cons x steps ih =>
    obtain ⟨hx, hrest⟩ : _ ∧ LoadsOnly steps := List.forall_mem_cons.mp hload
    rcases hx with ⟨t, rfl⟩ | ⟨source, rfl⟩
    · -- The first load stores a listing, which stays.
      have hasks : c.asks .load := asks_of_none hs rfl
      obtain ⟨docs, hdocs⟩ := hok.1
      have hsnap := (performs_of_answer (answer_of_ok hasks hdocs)).snapshot_of_ok
      obtain ⟨-, hlater⟩ := snapshot_run hsnap hrest.not_invalidates
      have hcount : ((c.next .load).stepHistory steps).countP Entry.asks = 0 :=
        List.countP_eq_zero.mpr hlater
      rw [after_cons, after, fetches_run]
      show (c.next .load).fetches + ((c.next .load).stepHistory steps).countP Entry.asks = _
      rw [hcount, (performs c .load).fetches_eq, hasks]
      rfl
    · refine ih (c := c.replaceSource source) hs hrest hok.next ?_
      rwa [List.countP_cons_of_neg Bool.false_ne_true] at hn

end Loads

/-! ### Every interleaving -/

theorem not_invalidates_of_answer {c : Catalog} {x : Step ι} {result : Except SiteError Snapshot}
    (h : c.answer x.request = .listing result) : ¬ x.request.invalidates := by
  cases x with
  | replaceSource source => exact Bool.false_ne_true
  | act t a =>
    cases a with
    | load | isLoaded | endReload => exact Bool.false_ne_true
    | invalidate | beginReload => cases h

/-- A snapshot that is answered to a load after an invalidation was fetched in between. -/
theorem exists_fetch_of_answer {c : Catalog} {t : ι} {gap : List (Step ι)} {s : Snapshot}
    (hs : c.snapshot = none) (h : (c.after gap).answer .load = .listing (.ok s)) :
    ∃ u x v, gap ++ [.act t .endReload] = u ++ x :: v ∧ (c.after u).asks x.request ∧
      (c.after u).answer x.request = .listing (.ok s) := by
  have hend : (c.run ((gap ++ [Step.act t .endReload]).map Step.request)).snapshot = some s := by
    rw [List.map_append, run_append]
    exact (performs_of_answer h).snapshot_of_ok
  -- There was no snapshot at the start of the gap, so a step fetched the one at its end.
  rcases exists_fetch_of_snapshot hend with ⟨hsome, -⟩ | ⟨old, r, later, hsplit, hr, ha, -⟩
  · cases hs.symm.trans hsome
  · obtain ⟨u, w, hgap, rfl, hw⟩ := List.map_eq_append_iff.mp hsplit
    obtain ⟨x, v, rfl, rfl, -⟩ := List.map_eq_cons_iff.mp hw
    exact ⟨u, x, v, hgap, hr, ha⟩

/-- **Every interleaving of any number of threads**:

* two loads that succeed are answered by the same snapshot if no step between them invalidates, and
  at most one of the steps from the first to the second asks the source;
* the second half of a reload comes after the first half of the same reload, and the snapshot it is
  answered was fetched after that, by whichever thread;
* at most one fetch more has its listing stored than there are invalidations that discard one;
* if the catalog is empty and the threads only load: `n` loads of a source that always fails, or
  always has a record that is refused, ask it `n` times, are answered by its errors and leave the
  catalog empty, and some loads of one that always has a listing ask it once. -/
theorem interleaving_invariants [DecidableEq ι] {programs : ι → List Call} {steps : List (Step ι)}
    (c : Catalog) (h : Interleaving programs steps) :
    (∀ old first between second later s t,
      steps = old ++ first :: (between ++ second :: later) →
      (c.after old).answer first.request = .listing (.ok s) →
      (c.after (old ++ first :: between)).answer second.request = .listing (.ok t) →
      (∀ x ∈ between, ¬ x.request.invalidates) →
        t = s ∧
        ((c.after old).stepHistory (first :: (between ++ [second]))).countP Entry.asks ≤ 1) ∧
    (∀ old t later, steps = old ++ .act t .endReload :: later →
      ∃ before gap, old = before ++ .act t .beginReload :: gap ∧ actionsOf t gap = [] ∧
        ∀ s, (c.after old).answer Action.endReload.request = .listing (.ok s) →
          ∃ u x v, gap ++ [.act t .endReload] = u ++ x :: v ∧
            (c.after (before ++ .act t .beginReload :: u)).asks x.request ∧
            (c.after (before ++ .act t .beginReload :: u)).answer x.request =
              .listing (.ok s)) ∧
    (c.stepHistory steps).countP Entry.populates ≤
      1 + (c.stepHistory steps).countP Entry.discards ∧
    (c.snapshot = none → (∀ t, ∀ call ∈ programs t, call = .load) →
      (Serves (fun f => ∃ e, collect c.order f = .error e) c steps →
        (c.after steps).fetches = c.fetches + steps.countP Step.isLoad ∧
        (c.after steps).snapshot = none ∧
        ∀ old t later, steps = old ++ .act t .load :: later →
          ∃ e, collect c.order (c.after old).source = .error e ∧
            (c.after old).answer Action.load.request = .listing (.error e)) ∧
      (Serves (fun f => ∃ docs, collect c.order f = .ok docs) c steps →
        1 ≤ steps.countP Step.isLoad → (c.after steps).fetches = c.fetches + 1)) := by
  refine ⟨?_, ?_, ?_, fun hs hcalls => ⟨fun hfail => ?_, fun hok hn => ?_⟩⟩
  · intro old first between second later s t _ hfirst hsecond hbetween
    have hkept : ∀ r ∈ between.map Step.request ++ [second.request], ¬ r.invalidates := by
      intro r hr
      rcases List.mem_append.mp hr with hr | hr
      · obtain ⟨x, hx, rfl⟩ := List.mem_map.mp hr
        exact hbetween x hx
      · obtain rfl := List.mem_singleton.mp hr
        exact not_invalidates_of_answer hsecond
    have hcount := countP_asks_le_one hfirst hkept
    rw [after_append, after_cons] at hsecond
    refine ⟨eq_of_answer hfirst hsecond hkept, ?_⟩
    rwa [stepHistory, List.map_cons, List.map_append]
  · rintro old t later rfl
    obtain ⟨before, gap, rfl, hgap⟩ := exists_beginReload h
    refine ⟨before, gap, rfl, hgap, fun s ha => ?_⟩
    rw [after_append, after_cons] at ha
    obtain ⟨u, x, v, hsplit, hasks, hanswer⟩ := exists_fetch_of_answer (t := t) rfl ha
    refine ⟨u, x, v, hsplit, ?_, ?_⟩
    · rwa [after_append, after_cons]
    · rwa [after_append, after_cons]
  · have hbalance := countP_populates_add c (steps.map Step.request)
    have hle := Bool.toNat_le (c.run (steps.map Step.request)).isLoaded
    rw [stepHistory]
    omega
  · obtain ⟨hsnap, hfetches⟩ := after_of_fails hs (h.loadsOnly hcalls) hfail
    refine ⟨hfetches, hsnap, ?_⟩
    rintro old t later rfl
    exact answer_of_fails hs (h.loadsOnly hcalls) hfail
  · exact fetches_after_of_succeeds hs (h.loadsOnly hcalls) hok hn

/-- Loads of a source that answers, but with a record that is refused, ask it once each: each of the
fetches is a success of the source, and none of them is stored. -/
theorem fetches_of_refused_record :
    let c := Catalog.new .default (.ok [{}])
    let programs : Fin 4 → List Call := fun _ => [.load]
    let steps : List (Step (Fin 4)) := [.act 0 .load, .act 1 .load, .act 2 .load, .act 3 .load]
    c.snapshot = none ∧ Interleaving programs steps ∧
      Serves (fun f => ∃ records, f = .ok records) c steps ∧
      (c.after steps).fetches = 4 ∧ (c.stepHistory steps).countP Entry.discards = 0 := by
  intro c programs steps
  have hsource : Serves (fun f => ∃ records, f = .ok records) c steps := by
    refine ⟨⟨_, rfl⟩, fun source hsource => ?_⟩
    simp [steps] at hsource
  have h : Interleaving programs steps := by
    intro t
    match t with
    | 0 | 1 | 2 | 3 => exact List.prefix_refl _
  exact ⟨rfl, h, hsource, rfl, rfl⟩

/-- A reload is answered the listing that another thread fetched between its halves. -/
theorem reload_answers_load_of_other_thread :
    let c := Catalog.new .default (.ok [])
    let programs : Bool → List Call := fun thread => if thread then [.load] else [.reload]
    let gap : List (Step Bool) := [.act true .load]
    let steps := .act false .beginReload :: (gap ++ [.act false .endReload])
    Interleaving programs steps ∧
      (c.after (.act false .beginReload :: gap)).answer .load = .listing (.ok ⟨0, []⟩) ∧
      (c.stepHistory steps).countP Entry.populates ≤
        1 + (c.stepHistory steps).countP Entry.discards := by
  intro c programs gap steps
  have h : Interleaving programs steps := by
    intro t
    cases t <;> exact List.prefix_refl _
  have hdocs : collect c.order c.source = .ok [] := by
    show Except.ok (([] : List Document).mergeSort _) = .ok []
    rw [List.mergeSort_nil]
  have hload : c.load = _ := load_of_ok rfl hdocs
  have hanswer : (c.load.2).answer .load = .listing (.ok ⟨0, []⟩) := by
    rw [hload]
    rfl
  exact ⟨h, hanswer, (interleaving_invariants c h).2.2.1⟩

end DocSite.Catalog
