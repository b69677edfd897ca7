import DocSite.Proofs.Catalog.Collect
import Mathlib.Data.List.Nodup

/-!
# A listing does not depend on the order of its source

* `exists_collect_eq_ok_iff`: a collection succeeds exactly when each of its records is a document,
  whatever their order.
* `map_key_eq_of_perm`: two listings of the same documents have the same sequence of keys, so only
  documents that share a key can have changed places (`eq_of_perm_of_nodup_keys`).
* `collect_perm` puts these together for records in two orders.
-/

namespace DocSite

/-! ### Success -/

/-- A collection succeeds exactly when every record is a document. -/
theorem exists_collect_eq_ok_iff {order : CategoryOrder} {records : List RawRecord} :
    (∃ docs, collect order (.ok records) = .ok docs) ↔
      ∀ r ∈ records, ∃ d, r.normalize = .ok d := by
  constructor
  · rintro ⟨docs, hdocs⟩ r hr
    cases hnormalize : r.normalize with
    | ok d => exact ⟨d, rfl⟩
    | error e =>
      obtain ⟨e', hfault⟩ := exists_firstFault_of_mem hr hnormalize
      rw [← collect_eq_error_iff order, hdocs] at hfault
      cases hfault
  · intro hall
    cases hcollect : collect order (.ok records) with
    | ok docs => exact ⟨docs, rfl⟩
    | error e =>
      -- The first fault is that of some record.
      cases (collect_eq_error_iff order _ e).mp hcollect with
      | @record before r _ after _ hr =>
        obtain ⟨d, hd⟩ := hall r (List.mem_append_right _ List.mem_cons_self)
        rw [hr] at hd
        cases hd

/-! ### Keys -/

namespace CategoryOrder

/-- What a document is sorted by: the rank of its category and its title. -/
def key (o : CategoryOrder) (d : Document) : ℕ × String :=
  (o.rank d.category, d.title)

/-- Keys are compared by rank, then by title. -/
def compareKeys : ℕ × String → ℕ × String → Ordering :=
  compareLex (compareOn Prod.fst) (compareOn Prod.snd)

instance : Std.TransCmp compareKeys := by
  unfold compareKeys
  infer_instance

instance : Std.LawfulEqCmp compareKeys where
  compare_self := Std.ReflCmp.compare_self
  eq_of_compare {p q} h := by
    obtain ⟨hrank, htitle⟩ := Ordering.then_eq_eq.mp h
    exact Prod.ext (Nat.compare_eq_eq.mp hrank) (Std.LawfulEqOrd.eq_of_compare htitle)

theorem compare_eq_compareKeys (o : CategoryOrder) (a b : Document) :
    o.compare a b = compareKeys (o.key a) (o.key b) :=
  rfl

variable {o : CategoryOrder} {docs docs' : List Document}

/-- Listings of the same documents have the same sequence of keys. -/
theorem map_key_eq_of_perm (hperm : docs.Perm docs') (hdocs : docs.Pairwise fun a b => o.le a b)
    (hdocs' : docs'.Pairwise fun a b => o.le a b) : docs.map o.key = docs'.map o.key := by
  simp only [le, compare_eq_compareKeys] at hdocs hdocs'
  have hsorted : (docs.map o.key).Pairwise fun p q => (compareKeys p q).isLE :=
    List.pairwise_map.mpr hdocs
  have hsorted' : (docs'.map o.key).Pairwise fun p q => (compareKeys p q).isLE :=
    List.pairwise_map.mpr hdocs'
  refine List.Perm.eq_of_pairwise (fun p q _ _ hpq hqp => ?_) hsorted hsorted' (hperm.map o.key)
  exact Std.LawfulEqCmp.eq_of_compare (Std.OrientedCmp.isLE_antisymm hpq hqp)

/-- Documents of which no two share a key are listed in one way only. -/
theorem eq_of_perm_of_nodup_keys (hperm : docs.Perm docs')
    (hdocs : docs.Pairwise fun a b => o.le a b) (hdocs' : docs'.Pairwise fun a b => o.le a b)
    (hnodup : (docs.map o.key).Nodup) : docs = docs' := by
  refine List.Perm.eq_of_pairwise (fun a b ha hb hab hba => ?_) hdocs hdocs' hperm
  rw [le, compare_eq_compareKeys] at hab hba
  have hcompare : compareKeys (o.key a) (o.key b) = .eq := Std.OrientedCmp.isLE_antisymm hab hba
  have hkey : o.key a = o.key b := Std.LawfulEqCmp.eq_of_compare hcompare
  exact List.inj_on_of_nodup_map hnodup ha (hperm.mem_iff.mpr hb) hkey

end CategoryOrder

/-! ### Records in two orders -/

/-- **A listing does not depend on the order of its source.** For every list of categories and
records in two orders: either both collections succeed or both fail. The listings have the same
documents, each as often, and the same sequence of keys; they are equal if no two of the records
that are no drafts share a key. -/
theorem collect_perm (order : CategoryOrder) {records records' : List RawRecord}
    (h : records.Perm records') :
    ((∃ docs, collect order (.ok records) = .ok docs) ↔
        ∃ docs', collect order (.ok records') = .ok docs') ∧
      ∀ docs docs', collect order (.ok records) = .ok docs →
        collect order (.ok records') = .ok docs' →
          docs.Perm docs' ∧ docs.map order.key = docs'.map order.key ∧
            (((records.filterMap RawRecord.listed?).map order.key).Nodup → docs = docs') := by
  refine ⟨?_, fun docs docs' hdocs hdocs' => ?_⟩
  · rw [exists_collect_eq_ok_iff, exists_collect_eq_ok_iff]
    exact forall_congr' fun r => imp_congr_left h.mem_iff
  · obtain ⟨_, heq, rfl⟩ := collect_eq_ok hdocs
    cases heq
    obtain ⟨_, heq, rfl⟩ := collect_eq_ok hdocs'
    cases heq
    have hlisted := List.mergeSort_perm (records.filterMap RawRecord.listed?) order.le
    have hlisted' := List.mergeSort_perm (records'.filterMap RawRecord.listed?) order.le
    have hperm := (hlisted.trans (h.filterMap RawRecord.listed?)).trans hlisted'.symm
    have hsorted := List.pairwise_mergeSort order.le_trans order.le_total
      (records.filterMap RawRecord.listed?)
    have hsorted' := List.pairwise_mergeSort order.le_trans order.le_total
      (records'.filterMap RawRecord.listed?)
    refine ⟨hperm, CategoryOrder.map_key_eq_of_perm hperm hsorted hsorted', fun hnodup => ?_⟩
    exact CategoryOrder.eq_of_perm_of_nodup_keys hperm hsorted hsorted'
      ((hlisted.map order.key).nodup_iff.mpr hnodup)

/-- Records in two orders of which two share a key: their documents change places, which the keys do
not show. -/
theorem collect_perm_of_shared_key :
    let x : RawRecord := { id := some "x", title := some "A", category := some "Misc" }
    let y : RawRecord := { id := some "y", title := some "A" }
    let z : RawRecord := { id := some "z", title := some "B", draft := some false }
    let dx : Document := { id := "x", slug := "x", title := "A", category := some "misc" }
    let dy : Document := { id := "y", slug := "y", title := "A" }
    let dz : Document := { id := "z", slug := "z", title := "B" }
    [x, y, z].Perm [y, x, z] ∧ collect .default (.ok [x, y, z]) = .ok [dx, dy, dz] ∧
      collect .default (.ok [y, x, z]) = .ok [dy, dx, dz] ∧
      [dx, dy, dz].map CategoryOrder.default.key = [dy, dx, dz].map CategoryOrder.default.key := by
  intro x y z dx dy dz
  have hperm : [x, y, z].Perm [y, x, z] := .swap y x [z]
  have hrecords : [x, y, z].mapM RawRecord.normalize = .ok [dx, dy, dz] := by decide +kernel
  have hrecords' : [y, x, z].mapM RawRecord.normalize = .ok [dy, dx, dz] := by decide +kernel
  have hdocs : collect .default (.ok [x, y, z]) = .ok [dx, dy, dz] :=
    collect_ok_of_pairwise hrecords (by decide +kernel)
  have hdocs' : collect .default (.ok [y, x, z]) = .ok [dy, dx, dz] :=
    collect_ok_of_pairwise hrecords' (by decide +kernel)
  obtain ⟨-, hlistings⟩ := collect_perm .default hperm
  obtain ⟨-, hkeys, -⟩ := hlistings _ _ hdocs hdocs'
  exact ⟨hperm, hdocs, hdocs', hkeys⟩

end DocSite
