import DocSite.Listing.Basic
import DocSite.Proofs.StableSort
import Mathlib.Data.List.Nodup
import Mathlib.Data.List.Perm.Subperm

/-!
# The latest documents of a listing

The dated documents of a listing are sorted, the newest first, and the list is cut after `n` of
them.

* `dated` are the documents that have a date, each with its place, and `IsAhead` is the order among
  them: a later date, or the same date and an earlier place. Of two entries one is ahead.
* `IsLatest` says which entries are the `n` latest ones, and in which order, without a sort.
* `latest_eq_iff`: these are the entries that `latest` answers, and no other list of entries will
  do.
-/

namespace DocSite

/-! ### Days in the order of time -/

namespace Date

variable {a b c : Date}

/-- The year decides first, then the month, then the day. -/
theorem before_iff : a.before b ↔
    a.year < b.year ∨ a.year = b.year ∧
      (a.month < b.month ∨ a.month = b.month ∧ a.day < b.day) := by
  unfold before
  simp

theorem before_asymm (h : a.before b) : ¬ b.before a := by
  rw [before_iff] at h ⊢
  omega

theorem before_or_eq_or_before (a b : Date) : a.before b ∨ a = b ∨ b.before a := by
  by_cases heq : a.year = b.year ∧ a.month = b.month ∧ a.day = b.day
  · obtain ⟨hyear, hmonth, hday⟩ := heq
    right; left
    cases a
    cases b
    rw [Date.mk.injEq]
    exact ⟨hyear, hmonth, hday⟩
  · rw [before_iff, before_iff]
    omega

theorem not_before_trans (hab : ¬ a.before b) (hbc : ¬ b.before c) : ¬ a.before c := by
  rw [before_iff] at *
  omega

end Date

/-! ### The order of the sort -/

theorem notOlder_iff {a b : Document} :
    notOlder a b ↔ ∀ y ∈ b.date, ∃ x ∈ a.date, ¬ x.before y := by
  unfold notOlder
  cases a.date <;> cases b.date <;> simp

theorem notOlder_trans (a b c : Document) (hab : notOlder a b) (hbc : notOlder b c) :
    notOlder a c := by
  rw [notOlder_iff] at *
  intro z hz
  obtain ⟨y, hy, hyz⟩ := hbc z hz
  obtain ⟨x, hx, hxy⟩ := hab y hy
  exact ⟨x, hx, Date.not_before_trans hxy hyz⟩

theorem notOlder_total (a b : Document) : notOlder a b || notOlder b a := by
  rw [Bool.or_eq_true]
  by_contra hneither
  rw [not_or, notOlder_iff, notOlder_iff] at hneither
  push Not at hneither
  obtain ⟨⟨y, hy, hya⟩, ⟨x, hx, hxb⟩⟩ := hneither
  exact Date.before_asymm (hya x hx) (hxb y hy)

/-! ### Dated entries -/

/-- The documents of a listing that have a date, each with its place. -/
def dated (docs : List Document) : List (Document × ℕ) :=
  docs.zipIdx.filter fun p => p.1.date.isSome

/-- An entry has a later date than another, or the same date and an earlier place. -/
def IsAhead (p q : Document × ℕ) : Prop :=
  (∃ x ∈ p.1.date, ∃ y ∈ q.1.date, y.before x) ∨ p.1.date = q.1.date ∧ p.2 < q.2

variable {docs : List Document} {n : ℕ} {p q : Document × ℕ}

theorem mem_dated_iff : p ∈ dated docs ↔ docs[p.2]? = some p.1 ∧ p.1.date.isSome := by
  rw [dated, List.mem_filter, List.mem_zipIdx_iff_getElem?]

theorem map_fst_dated (docs : List Document) :
    (dated docs).map Prod.fst = docs.filter (·.date.isSome) := by
  conv_rhs => rw [← List.zipIdx_map_fst 0 docs, List.filter_map]
  rfl

theorem length_dated (docs : List Document) :
    (dated docs).length = docs.countP (·.date.isSome) := by
  rw [List.countP_eq_length_filter, ← map_fst_dated, List.length_map]

theorem pairwise_dated (docs : List Document) : (dated docs).Pairwise fun p q => p.2 < q.2 :=
  (pairwise_zipIdx docs).filter _

theorem IsAhead.asymm (h : IsAhead p q) : ¬ IsAhead q p := by
  intro h'
  rcases h with ⟨x, hx, y, hy, hyx⟩ | ⟨hdate, hplace⟩
  · rcases h' with ⟨y', hy', x', hx', hxy⟩ | ⟨hdate', -⟩
    · obtain rfl := Option.mem_unique hx hx'
      obtain rfl := Option.mem_unique hy hy'
      exact Date.before_asymm hyx hxy
    · rw [hdate'] at hy
      obtain rfl := Option.mem_unique hx hy
      exact Date.before_asymm hyx hyx
  · rcases h' with ⟨y, hy, x, hx, hxy⟩ | ⟨-, hplace'⟩
    · rw [hdate] at hx
      obtain rfl := Option.mem_unique hx hy
      exact Date.before_asymm hxy hxy
    · omega

/-- Entries that may stand in this order, and not the other way round unless the first one stands
earlier, are in the order of the latest documents. -/
theorem isAhead_of_notOlder (hp : p ∈ dated docs) (hq : q ∈ dated docs)
    (hle : notOlder p.1 q.1) (hplace : notOlder q.1 p.1 → p.2 < q.2) : IsAhead p q := by
  obtain ⟨x, hx⟩ := Option.isSome_iff_exists.mp (mem_dated_iff.mp hp).2
  obtain ⟨y, hy⟩ := Option.isSome_iff_exists.mp (mem_dated_iff.mp hq).2
  rcases Date.before_or_eq_or_before x y with hxy | rfl | hyx
  · rw [notOlder_iff] at hle
    obtain ⟨x', hx', hnot⟩ := hle y hy
    obtain rfl := Option.mem_unique hx hx'
    exact absurd hxy hnot
  · right
    refine ⟨hx.trans hy.symm, hplace ?_⟩
    rw [notOlder_iff]
    intro x' hx'
    obtain rfl := Option.mem_unique hx hx'
    exact ⟨x, hy, fun h => Date.before_asymm h h⟩
  · left
    exact ⟨x, hx, y, hy, hyx⟩

/-- Of two entries that have a date, the one that stands earlier is ahead unless it is older. -/
theorem isAhead_or_isAhead_of_lt (hp : p ∈ dated docs) (hq : q ∈ dated docs) (h : p.2 < q.2) :
    IsAhead p q ∨ IsAhead q p := by
  by_cases hle : notOlder p.1 q.1
  · left
    exact isAhead_of_notOlder hp hq hle fun _ => h
  · right
    have hle' : notOlder q.1 p.1 :=
      ((Bool.or_eq_true _ _).mp (notOlder_total p.1 q.1)).resolve_left hle
    exact isAhead_of_notOlder hq hp hle' fun hle'' => absurd hle'' hle

theorem isAhead_or_eq_or_isAhead (hp : p ∈ dated docs) (hq : q ∈ dated docs) :
    IsAhead p q ∨ p = q ∨ IsAhead q p := by
  rcases Nat.lt_trichotomy p.2 q.2 with hlt | heq | hgt
  · have hone := isAhead_or_isAhead_of_lt hp hq hlt
    tauto
  · -- There is one entry at a place.
    right; left
    have hdoc := (mem_dated_iff.mp hp).1
    rw [heq, (mem_dated_iff.mp hq).1] at hdoc
    exact Prod.ext (Option.some.inj hdoc).symm heq
  · have hone := isAhead_or_isAhead_of_lt hq hp hgt
    tauto

/-! ### The latest entries -/

/-- The entries that are the `n` latest ones of a listing, or all dated ones if there are fewer. -/
structure IsLatest (docs : List Document) (n : ℕ) (chosen : List (Document × ℕ)) : Prop where
  /-- Each entry is one of the listing and has a date. -/
  mem : ∀ p ∈ chosen, docs[p.2]? = some p.1 ∧ p.1.date.isSome
  /-- No entry is used twice. -/
  nodup : (chosen.map Prod.snd).Nodup
  length_eq : chosen.length = min n (docs.countP (·.date.isSome))
  /-- Later dates come first, and equal dates in the order of the listing. -/
  pairwise : chosen.Pairwise IsAhead
  /-- No dated entry that is left out is ahead of one that is not. -/
  not_isAhead : ∀ q, docs[q.2]? = some q.1 → q.1.date.isSome → q ∉ chosen →
    ∀ p ∈ chosen, ¬ IsAhead q p

/-- Where all dated entries stand in order, the first ones are the latest. -/
theorem isLatest_take {entries : List (Document × ℕ)} (hperm : entries.Perm (dated docs))
    (hahead : entries.Pairwise IsAhead) (n : ℕ) : IsLatest docs n (entries.take n) where
  mem := by
    intro p hp
    exact mem_dated_iff.mp (hperm.mem_iff.mp (List.mem_of_mem_take hp))
  nodup := by
    have hplaces : (entries.map Prod.snd).Nodup := by
      rw [(hperm.map Prod.snd).nodup_iff, List.Nodup, List.pairwise_map]
      exact (pairwise_dated docs).imp Nat.ne_of_lt
    rw [List.map_take]
    exact hplaces.sublist (List.take_sublist _ _)
  length_eq := by rw [List.length_take, hperm.length_eq, length_dated]
  pairwise := hahead.sublist (List.take_sublist _ _)
  not_isAhead := by
    -- What is left out stands after the cut, so the entries before it are ahead of it.
    intro q hq hdate hnot p hp
    have hmem : q ∈ entries := hperm.mem_iff.mpr (mem_dated_iff.mpr ⟨hq, hdate⟩)
    rw [← List.take_append_drop n entries] at hmem hahead
    have hdrop : q ∈ entries.drop n := (List.mem_append.mp hmem).resolve_left hnot
    exact ((List.pairwise_append.mp hahead).2.2 p hp q hdrop).asymm

/-- The latest documents are those of the latest entries. -/
theorem exists_isLatest (docs : List Document) (n : ℕ) :
    ∃ chosen, IsLatest docs n chosen ∧ chosen.map Prod.fst = latest docs n := by
  obtain ⟨entries, hperm, hmap, hsorted⟩ := exists_perm_map_eq_mergeSort notOlder
    notOlder_trans notOlder_total (f := Prod.fst) (pairwise_dated docs)
  have hahead : entries.Pairwise IsAhead := by
    apply hsorted.imp_of_mem
    intro p q hp hq h
    exact isAhead_of_notOlder (hperm.mem_iff.mp hp) (hperm.mem_iff.mp hq) h.1 h.2
  refine ⟨entries.take n, isLatest_take hperm hahead n, ?_⟩
  rw [List.map_take, hmap, map_fst_dated, latest]

namespace IsLatest

variable {c c' : List (Document × ℕ)}

/-- Of two choices one is a part of the other: an entry that only the first one has and an entry
that only the second one has would be left out for each other. -/
theorem subset_or_subset (h : IsLatest docs n c) (h' : IsLatest docs n c') : c ⊆ c' ∨ c' ⊆ c := by
  by_contra hneither
  rw [not_or, List.subset_def, List.subset_def] at hneither
  push Not at hneither
  obtain ⟨⟨p, hp, hpnot⟩, ⟨q, hq, hqnot⟩⟩ := hneither
  have hpdated := h.mem p hp
  have hqdated := h'.mem q hq
  rcases isAhead_or_eq_or_isAhead (mem_dated_iff.mpr hpdated) (mem_dated_iff.mpr hqdated) with
    hahead | rfl | hahead
  · exact h'.not_isAhead p hpdated.1 hpdated.2 hpnot q hq hahead
  · exact hqnot hp
  · exact h.not_isAhead q hqdated.1 hqdated.2 hqnot p hp hahead

/-- There is one choice only. -/
theorem unique (h : IsLatest docs n c) (h' : IsLatest docs n c') : c = c' := by
  have hlength : c.length = c'.length := h.length_eq.trans h'.length_eq.symm
  have hperm : c.Perm c' := by
    rcases h.subset_or_subset h' with hsub | hsub
    · have hpart := List.subperm_of_subset (h.nodup.of_map _) hsub
      exact hpart.perm_of_length_le (Nat.le_of_eq hlength.symm)
    · have hpart := List.subperm_of_subset (h'.nodup.of_map _) hsub
      exact (hpart.perm_of_length_le (Nat.le_of_eq hlength)).symm
  apply hperm.eq_of_pairwise _ h.pairwise h'.pairwise
  intro p q _ _ hpq hqp
  exact absurd hqp hpq.asymm

end IsLatest

/-- **The latest documents of a listing.** For every listing and every `n`, the documents answered
are those of `n` entries of the listing, or of all that have a date if there are fewer. No entry is
used twice and each has a date. Of two of them the first has the later date, or the dates are equal
and it stands earlier in the listing, and no dated entry that is left out is ahead of one of them in
this way. There is no other list of documents of which this is true. -/
theorem latest_eq_iff (docs : List Document) (n : ℕ) (newest : List Document) :
    latest docs n = newest ↔ ∃ chosen, IsLatest docs n chosen ∧ chosen.map Prod.fst = newest := by
  constructor
  · rintro rfl
    exact exists_isLatest docs n
  · rintro ⟨chosen, hchosen, rfl⟩
    obtain ⟨sorted, hsorted, hlatest⟩ := exists_isLatest docs n
    rw [← hlatest, hsorted.unique hchosen]

/-- A date that two documents share, at the cut, and one without a date between them. -/
example :
    let old : Document := { id := "old", slug := "old", title := "O", date := Date.of? 2021 1 1 }
    let a : Document := { id := "a", slug := "a", title := "A", date := Date.of? 2023 3 3 }
    let undated : Document := { id := "u", slug := "u", title := "U" }
    let b : Document := { id := "b", slug := "b", title := "B", date := Date.of? 2023 3 3 }
    let new : Document := { id := "new", slug := "new", title := "N", date := Date.of? 2024 6 1 }
    latest [old, a, undated, new, b] 2 = [new, a] := by
  cbv

end DocSite
