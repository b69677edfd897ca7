import DocSite.Catalog.Collect
import DocSite.Proofs.StableSort
import DocSite.Proofs.Text.ByteOrder

/-!
# Collecting is all or nothing, and its listing is fully ordered

* `collect_eq_error_iff`: a collection fails exactly with the fault of its source, or with that of
  the first record that is no document, draft or not (`FirstFault`).
* `collect_eq_ok`: else it is the sorted list of the documents that are no drafts.
* `isListing_mergeSort`: such a list holds each of them once for each record that it comes from, in
  the order of rank, bytes of the title and place in the source (`IsListing`).
* `collect_all_or_nothing` puts these together for every list of category names.
-/

namespace DocSite

/-! ### Records that are listed -/

/-- The document under which a record is listed; none for a draft and for a refused record. -/
def RawRecord.listed? (r : RawRecord) : Option Document :=
  match r.normalize with
  | .ok d => if d.draft then none else some d
  | .error _ => none

/-- The documents that records are listed under, each with its record's place. -/
def listedEntries (records : List RawRecord) : List (Document × ℕ) :=
  records.zipIdx.filterMap fun p => p.1.listed?.map (·, p.2)

theorem map_fst_listedEntries (records : List RawRecord) :
    (listedEntries records).map Prod.fst = records.filterMap RawRecord.listed? := by
  conv_rhs => rw [← List.zipIdx_map_fst 0 records, List.filterMap_map]
  rw [listedEntries, List.map_filterMap]
  congr 1
  funext p
  cases h : p.1.listed? <;> simp [h]

theorem pairwise_listedEntries (records : List RawRecord) :
    (listedEntries records).Pairwise fun p q => p.2 < q.2 := by
  refine (pairwise_zipIdx records).filterMap _ fun p q hpq b hb b' hb' => ?_
  obtain ⟨d, -, rfl⟩ := Option.map_eq_some_iff.mp hb
  obtain ⟨d', -, rfl⟩ := Option.map_eq_some_iff.mp hb'
  exact hpq

/-! ### The first fault -/

/-- Why a source's answer yields no listing: the source's own fault, or the fault of a record all of
whose predecessors are documents. -/
inductive FirstFault : Fetched → SiteError → Prop where
  | source (e : SiteError) : FirstFault (.error e) e
  | record {before : List RawRecord} {r : RawRecord} {e : SiteError} (after : List RawRecord)
      (hbefore : ∀ q ∈ before, ∃ d, q.normalize = .ok d) (hr : r.normalize = .error e) :
      FirstFault (.ok (before ++ r :: after)) e

theorem mapM_normalize_cons (r : RawRecord) (records : List RawRecord) :
    (r :: records).mapM RawRecord.normalize =
      match r.normalize with
      | .error e => .error e
      | .ok d => (records.mapM RawRecord.normalize).map (d :: ·) := by
  rw [List.mapM_cons]
  cases r.normalize with
  | error e => rfl
  | ok d => cases records.mapM RawRecord.normalize <;> rfl

theorem firstFault_cons_iff (r : RawRecord) (records : List RawRecord) (e : SiteError) :
    FirstFault (.ok (r :: records)) e ↔
      r.normalize = .error e ∨ (∃ d, r.normalize = .ok d) ∧ FirstFault (.ok records) e := by
  constructor
  · intro h
    -- The fault is that of the head, or its predecessors begin with the head.
    generalize hrs : r :: records = rs at h
    cases h with
    | @record before r' _ after hbefore hr =>
      cases before with
      | nil =>
        obtain ⟨rfl, -⟩ := List.cons.inj hrs
        exact .inl hr
      | cons q before =>
        obtain ⟨rfl, rfl⟩ := List.cons.inj hrs
        obtain ⟨hq, hbefore⟩ := List.forall_mem_cons.mp hbefore
        exact .inr ⟨hq, .record after hbefore hr⟩
  · rintro (hr | ⟨hd, h⟩)
    · exact .record records (fun q hq => absurd hq List.not_mem_nil) hr
    · cases h with
      | @record before r' _ after hbefore hr =>
        exact .record after (List.forall_mem_cons.mpr ⟨hd, hbefore⟩) hr

theorem mapM_normalize_eq_error_iff (records : List RawRecord) (e : SiteError) :
    records.mapM RawRecord.normalize = .error e ↔ FirstFault (.ok records) e := by
  induction records with
  | nil =>
    constructor
    · intro h
      cases h
    · intro h
      generalize hrs : [] = rs at h
      cases h
      exact absurd hrs.symm (List.append_ne_nil_of_right_ne_nil _ (List.cons_ne_nil _ _))
  | cons r records ih =>
    rw [mapM_normalize_cons, firstFault_cons_iff, ← ih]
    cases r.normalize with
    | error e' => simp
    | ok d => cases records.mapM RawRecord.normalize <;> simp [Except.map]

theorem mapM_normalize_eq_ok {records : List RawRecord} {docs : List Document}
    (h : records.mapM RawRecord.normalize = .ok docs) :
    docs.filter (!·.draft) = records.filterMap RawRecord.listed? := by
  induction records generalizing docs with
  | nil =>
    cases h
    rfl
  | cons r records ih =>
    rw [mapM_normalize_cons] at h
    cases hr : r.normalize with
    | error e => rw [hr] at h; cases h
    | ok d =>
      rw [hr] at h
      cases hrest : records.mapM RawRecord.normalize with
      | error e => rw [hrest] at h; cases h
      | ok rest =>
        rw [hrest] at h
        cases h
        rw [List.filter_cons, List.filterMap_cons, RawRecord.listed?, hr, ih hrest]
        cases hd : d.draft <;> simp [hd]

theorem exists_firstFault_of_mem {records : List RawRecord} {r : RawRecord} {e : SiteError}
    (hmem : r ∈ records) (hr : r.normalize = .error e) : ∃ e, FirstFault (.ok records) e := by
  induction records with
  | nil => exact absurd hmem List.not_mem_nil
  | cons q records ih =>
    simp only [firstFault_cons_iff]
    cases hq : q.normalize with
    | error e' => exact ⟨e', .inl rfl⟩
    | ok d =>
      rcases List.mem_cons.mp hmem with rfl | hmem
      · rw [hr] at hq
        cases hq
      · obtain ⟨e', h⟩ := ih hmem
        exact ⟨e', .inr ⟨⟨d, rfl⟩, h⟩⟩

/-- There is a first fault exactly when the source fails or some record is no document. -/
theorem exists_firstFault_iff (fetched : Fetched) :
    (∃ e, FirstFault fetched e) ↔
      (∃ e, fetched = .error e) ∨
        ∃ records, fetched = .ok records ∧ ∃ r ∈ records, ∃ e, r.normalize = .error e := by
  constructor
  · rintro ⟨e, h⟩
    cases h with
    | source => exact .inl ⟨e, rfl⟩
    | @record before r _ after _ hr =>
      exact .inr ⟨_, rfl, r, List.mem_append_right _ List.mem_cons_self, e, hr⟩
  · rintro (⟨e, rfl⟩ | ⟨records, rfl, r, hmem, e, hr⟩)
    · exact ⟨e, .source e⟩
    · exact exists_firstFault_of_mem hmem hr

/-! ### Collections -/

theorem collect_ok (order : CategoryOrder) (records : List RawRecord) :
    collect order (.ok records) =
      (records.mapM RawRecord.normalize).map fun docs =>
        (docs.filter (!·.draft)).mergeSort order.le := by
  change collectRecords order records = _
  rw [collectRecords]
  cases records.mapM RawRecord.normalize <;> rfl

/-- A collection fails exactly with the first fault of its source. -/
theorem collect_eq_error_iff (order : CategoryOrder) (fetched : Fetched) (e : SiteError) :
    collect order fetched = .error e ↔ FirstFault fetched e := by
  cases fetched with
  | error e' =>
    constructor
    · intro h
      cases h
      exact .source e
    · intro h
      cases h
      rfl
  | ok records =>
    rw [collect_ok, ← mapM_normalize_eq_error_iff]
    cases records.mapM RawRecord.normalize <;> simp [Except.map]

/-- A collection that does not fail is the sorted list of what its records are listed under. -/
theorem collect_eq_ok {order : CategoryOrder} {fetched : Fetched} {docs : List Document}
    (h : collect order fetched = .ok docs) :
    ∃ records, fetched = .ok records ∧
      docs = (records.filterMap RawRecord.listed?).mergeSort order.le := by
  cases fetched with
  | error e => cases h
  | ok records =>
    rw [collect_ok] at h
    cases hdocs : records.mapM RawRecord.normalize with
    | error e => rw [hdocs] at h; cases h
    | ok normalized =>
      rw [hdocs] at h
      cases h
      exact ⟨records, rfl, by rw [← mapM_normalize_eq_ok hdocs]⟩

theorem RawRecord.listed?_eq_some_iff {r : RawRecord} {d : Document} :
    r.listed? = some d ↔ r.normalize = .ok d ∧ d.draft = false := by
  rw [RawRecord.listed?]
  cases r.normalize with
  | error e => simp
  | ok d' =>
    show (if d'.draft then none else some d') = some d ↔ Except.ok d' = .ok d ∧ d.draft = false
    split_ifs with hdraft
    · constructor
      · intro h
        cases h
      · rintro ⟨hd, hfalse⟩
        cases hd
        exact absurd hdraft (ne_true_of_eq_false hfalse)
    · constructor
      · intro h
        cases h
        exact ⟨rfl, eq_false_of_ne_true hdraft⟩
      · rintro ⟨hd, -⟩
        cases hd
        rfl

/-- Every listed document is that of a record. -/
theorem exists_normalize_of_mem_collect {order : CategoryOrder} {fetched : Fetched}
    {docs : List Document} (h : collect order fetched = .ok docs) {d : Document} (hd : d ∈ docs) :
    ∃ r : RawRecord, r.normalize = .ok d := by
  obtain ⟨records, -, rfl⟩ := collect_eq_ok h
  obtain ⟨r, -, hr⟩ := List.mem_filterMap.mp (List.mem_mergeSort.mp hd)
  exact ⟨r, (RawRecord.listed?_eq_some_iff.mp hr).1⟩

/-- Records that come in the order of the listing are listed as they come. -/
theorem collect_ok_of_pairwise {order : CategoryOrder} {records : List RawRecord}
    {docs : List Document} (h : records.mapM RawRecord.normalize = .ok docs)
    (hsorted : (docs.filter (!·.draft)).Pairwise fun a b => order.le a b) :
    collect order (.ok records) = .ok (docs.filter (!·.draft)) := by
  rw [collect_ok, h]
  exact congrArg Except.ok (List.mergeSort_of_pairwise hsorted)

/-! ### The order of a listing -/

namespace CategoryOrder

theorem position?_eq (o : CategoryOrder) (name : String) :
    o.position? name = if name ∈ o.names then some (o.names.idxOf name) else none := by
  rw [position?, List.findIdx?_eq_guard_findIdx_lt]
  by_cases h : name ∈ o.names
  · have hlt : o.names.findIdx (· == name) < o.names.length := List.idxOf_lt_length_iff.mpr h
    simp [h, hlt, List.idxOf]
  · have hlt : ¬ o.names.findIdx (· == name) < o.names.length :=
      fun hlt => h (List.idxOf_lt_length_iff.mp hlt)
    simp [h, hlt]

theorem rank_none (o : CategoryOrder) : o.rank none = o.names.idxOf uncategorized := by
  rw [rank, position?_eq]
  by_cases h : uncategorized ∈ o.names
  · simp [h]
  · simp [h]

theorem rank_of_mem {o : CategoryOrder} {c : String} (h : c ∈ o.names) :
    o.rank (some c) = o.names.idxOf c := by
  simp [rank, position?_eq, h]

theorem rank_of_not_mem {o : CategoryOrder} {c : String} (h : c ∉ o.names) :
    o.rank (some c) = o.names.idxOf uncategorized := by
  rw [← rank_none]
  simp [rank, position?_eq, h]

/-- The key of `a` is smaller: its rank, or at equal ranks the bytes of its title. -/
def KeyLT (o : CategoryOrder) (a b : Document) : Prop :=
  o.rank a.category < o.rank b.category ∨
    o.rank a.category = o.rank b.category ∧
      List.Lex (· < ·) (Text.utf8 a.title) (Text.utf8 b.title)

/-- Two documents have the same key: the same rank and the same title. -/
def KeyEq (o : CategoryOrder) (a b : Document) : Prop :=
  o.rank a.category = o.rank b.category ∧ a.title = b.title

theorem compare_eq_compareLex (o : CategoryOrder) :
    o.compare = compareLex (compareOn fun d => o.rank d.category) (compareOn Document.title) :=
  rfl

instance (o : CategoryOrder) : Std.TransCmp o.compare := by
  rw [compare_eq_compareLex]
  infer_instance

theorem le_trans (o : CategoryOrder) (a b c : Document) (hab : o.le a b) (hbc : o.le b c) :
    o.le a c :=
  Std.TransCmp.isLE_trans hab hbc

theorem le_total (o : CategoryOrder) (a b : Document) : o.le a b || o.le b a := by
  have hswap : o.compare a b = (o.compare b a).swap := Std.OrientedCmp.eq_swap
  rw [le, le, hswap]
  cases o.compare b a <;> rfl

theorem keyLT_of_compare_eq_lt {o : CategoryOrder} {a b : Document} (h : o.compare a b = .lt) :
    o.KeyLT a b := by
  rw [compare, Ordering.then_eq_lt] at h
  rcases h with h | ⟨heq, h⟩
  · exact .inl (Nat.compare_eq_lt.mp h)
  · exact .inr ⟨Nat.compare_eq_eq.mp heq, (Text.compare_eq_lt_iff _ _).mp h⟩

theorem keyEq_of_compare_eq_eq {o : CategoryOrder} {a b : Document} (h : o.compare a b = .eq) :
    o.KeyEq a b := by
  rw [compare, Ordering.then_eq_eq] at h
  exact ⟨Nat.compare_eq_eq.mp h.1, Std.LawfulEqOrd.eq_of_compare h.2⟩

/-- Of two documents in order the first has the smaller key, or they may also be swapped. -/
theorem keyLT_or_keyEq_of_le {o : CategoryOrder} {a b : Document} (h : o.le a b) :
    o.KeyLT a b ∨ o.KeyEq a b ∧ o.le b a := by
  cases hab : o.compare a b with
  | lt => exact .inl (keyLT_of_compare_eq_lt hab)
  | eq =>
    refine .inr ⟨keyEq_of_compare_eq_eq hab, ?_⟩
    rw [le, Std.OrientedCmp.eq_comm.mp hab]
    rfl
  | gt => rw [le, hab] at h; cases h

end CategoryOrder

/-! ### Listings -/

/-- A list of documents is the listing of records: it holds the document of each record that is one
and no draft, ordered by key, and by the places of their records where keys are equal. -/
def IsListing (order : CategoryOrder) (records : List RawRecord) (docs : List Document) : Prop :=
  ∃ entries : List (Document × ℕ), entries.Perm (listedEntries records) ∧
    entries.map Prod.fst = docs ∧
    entries.Pairwise fun p q => order.KeyLT p.1 q.1 ∨ order.KeyEq p.1 q.1 ∧ p.2 < q.2

theorem isListing_mergeSort (order : CategoryOrder) (records : List RawRecord) :
    IsListing order records ((records.filterMap RawRecord.listed?).mergeSort order.le) := by
  obtain ⟨entries, hperm, hdocs, hsorted⟩ :=
    exists_perm_map_eq_mergeSort order.le order.le_trans order.le_total (f := Prod.fst)
      (pairwise_listedEntries records)
  refine ⟨entries, hperm, ?_, hsorted.imp fun {p q} hpq => ?_⟩
  · rw [hdocs, map_fst_listedEntries]
  · obtain ⟨hle, hplace⟩ := hpq
    rcases CategoryOrder.keyLT_or_keyEq_of_le hle with hlt | ⟨heq, hge⟩
    · exact .inl hlt
    · exact .inr ⟨heq, hplace hge⟩

/-- **All or nothing, and fully ordered**: for every list of category names and every source, a
collection fails exactly when the source fails or one of its records is no document, and then with
the first fault; else it is the listing of the source's records. The rank of a category is its first
place among the cleaned names, and the place of `uncategorized` (the number of names, when that is
not among them) for a category that is unset or not listed. -/
theorem collect_all_or_nothing (names : List String) (fetched : Fetched) :
    let cleaned := names.map Slug.clean
    let order := CategoryOrder.ofNames names
    ((∃ e, collect order fetched = .error e) ↔
        (∃ e, fetched = .error e) ∨
          ∃ records, fetched = .ok records ∧ ∃ r ∈ records, ∃ e, r.normalize = .error e) ∧
      (∀ e, collect order fetched = .error e ↔ FirstFault fetched e) ∧
      (∀ docs, collect order fetched = .ok docs →
        ∃ records, fetched = .ok records ∧ IsListing order records docs) ∧
      (∀ c ∈ cleaned, order.rank (some c) = cleaned.idxOf c) ∧
      (∀ c ∉ cleaned, order.rank (some c) = cleaned.idxOf uncategorized) ∧
      order.rank none = cleaned.idxOf uncategorized := by
  intro cleaned order
  refine ⟨?_, collect_eq_error_iff order fetched, fun docs h => ?_,
    fun c hc => CategoryOrder.rank_of_mem hc, fun c hc => CategoryOrder.rank_of_not_mem hc,
    CategoryOrder.rank_none order⟩
  · rw [← exists_firstFault_iff]
    exact exists_congr fun e => collect_eq_error_iff order fetched e
  · obtain ⟨records, rfl, rfl⟩ := collect_eq_ok h
    exact ⟨records, rfl, isListing_mergeSort order records⟩

end DocSite
