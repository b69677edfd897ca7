import Mathlib.Data.List.Basic
import Mathlib.Data.List.Pairwise
import Mathlib.Tactic.Common

/-!
# What a stable sort keeps

Elements that compare equal keep the order in which they stood.

* `pairwise_mergeSort_of_pairwise`: a relation that held from each element to all later ones, such
  as "stands earlier in the source", holds between the elements of a sorted list that compare equal.
* `exists_perm_map_eq_mergeSort`: a sorted list of values is the list of the values of entries that
  carry more, such as their places in the source, and the entries are in order too.
* `filter_mergeSort`: sorting some of the elements is sorting all and keeping these. What is sorted
  after one more element is put in front is known (`mergeSort_cons_eq`), so this follows element by
  element, and so does `sublist_mergeSort`.
-/

namespace DocSite

variable {α β : Type}

/-- Entries stand in the order of their places. -/
theorem pairwise_zipIdx (l : List α) : l.zipIdx.Pairwise fun p q => p.2 < q.2 := by
  rw [List.pairwise_iff_getElem]
  intro i j hi hj hij
  rw [List.getElem_zipIdx, List.getElem_zipIdx]
  omega

variable (le : α → α → Bool)

/-- In a sorted list every element may stand before all later ones, and stood before those that may
also stand before it. -/
theorem pairwise_mergeSort_of_pairwise {R : α → α → Prop}
    (trans : ∀ a b c, le a b → le b c → le a c) (total : ∀ a b, le a b || le b a)
    {l : List α} (h : l.Pairwise R) :
    (l.mergeSort le).Pairwise fun a b => le a b ∧ (le b a → R a b) := by
  -- The list is sorted with its places, which decide between elements that compare equal.
  have hsorted : (l.zipIdx.mergeSort (List.zipIdxLE le)).Pairwise fun p q => List.zipIdxLE le p q :=
    List.pairwise_mergeSort (List.zipIdxLE_trans trans) (List.zipIdxLE_total total) _
  have hperm : (l.zipIdx.mergeSort (List.zipIdxLE le)).Perm l.zipIdx := List.mergeSort_perm _ _
  have hplaces : (l.zipIdx.mergeSort (List.zipIdxLE le)).Pairwise fun p q => p.2 ≠ q.2 := by
    rw [← List.pairwise_map, ← List.Nodup, (hperm.map Prod.snd).nodup_iff, List.zipIdx_map_snd]
    exact List.nodup_range'
  rw [← List.mergeSort_zipIdx, List.pairwise_map]
  refine (hsorted.and hplaces).imp_of_mem fun {p q} hp hq hpq => ?_
  obtain ⟨hle, hne⟩ := hpq
  have hp' := List.mem_zipIdx_iff_getElem?.mp (hperm.mem_iff.mp hp)
  have hq' := List.mem_zipIdx_iff_getElem?.mp (hperm.mem_iff.mp hq)
  unfold List.zipIdxLE at hle
  split_ifs at hle with h1 h2
  · refine ⟨h1, fun _ => ?_⟩
    have hlt : p.2 < q.2 := Nat.lt_of_le_of_ne (of_decide_eq_true hle) hne
    obtain ⟨hi, hpi⟩ := List.getElem?_eq_some_iff.mp hp'
    obtain ⟨hj, hqj⟩ := List.getElem?_eq_some_iff.mp hq'
    rw [← hpi, ← hqj]
    exact List.pairwise_iff_getElem.mp h _ _ hi hj hlt
  · exact ⟨h1, fun h21 => absurd h21 h2⟩

/-- Sorting the values of entries is sorting the entries by their values. -/
theorem exists_perm_map_eq_mergeSort {f : β → α} {R : β → β → Prop}
    (trans : ∀ a b c, le a b → le b c → le a c) (total : ∀ a b, le a b || le b a)
    {l : List β} (h : l.Pairwise R) :
    ∃ entries : List β, entries.Perm l ∧ entries.map f = (l.map f).mergeSort le ∧
      entries.Pairwise fun p q => le (f p) (f q) ∧ (le (f q) (f p) → R p q) := by
  refine ⟨l.mergeSort fun p q => le (f p) (f q), List.mergeSort_perm _ _, ?_, ?_⟩
  · exact List.map_mergeSort fun _ _ _ _ => rfl
  · exact pairwise_mergeSort_of_pairwise (fun p q => le (f p) (f q))
      (fun a b c => trans (f a) (f b) (f c)) (fun a b => total (f a) (f b)) h

/-! ### Sorting a part of a list -/

section Part

variable {le} (trans : ∀ a b c, le a b → le b c → le a c) (total : ∀ a b, le a b || le b a)
include trans total

/-- An element in front of a list is sorted to where it cuts the sorted list: before it stands what
it may not precede, and after it what it may. -/
theorem mergeSort_cons_eq (a : α) (l : List α) :
    (a :: l).mergeSort le =
        (l.mergeSort le).filter (!le a ·) ++ a :: (l.mergeSort le).filter (le a ·) ∧
      (l.mergeSort le).filter (!le a ·) ++ (l.mergeSort le).filter (le a ·) = l.mergeSort le := by
  obtain ⟨before, after, hcons, hl, hbefore⟩ := List.mergeSort_cons trans total a l
  have hafter : ∀ b ∈ after, le a b := by
    have hsorted := List.pairwise_mergeSort trans total (a :: l)
    rw [hcons, List.pairwise_append, List.pairwise_cons] at hsorted
    exact hsorted.2.1.1
  have hnot : (l.mergeSort le).filter (!le a ·) = before := by
    have hnone : after.filter (!le a ·) = [] :=
      List.filter_eq_nil_iff.mpr fun b hb => by rw [hafter b hb]; decide
    rw [hl, List.filter_append, List.filter_eq_self.mpr hbefore, hnone, List.append_nil]
  have hle : (l.mergeSort le).filter (le a ·) = after := by
    have hnone : before.filter (le a ·) = [] :=
      List.filter_eq_nil_iff.mpr fun b hb => by simpa using hbefore b hb
    rw [hl, List.filter_append, List.filter_eq_self.mpr hafter, hnone, List.nil_append]
  rw [hnot, hle]
  exact ⟨hcons, hl.symm⟩

/-- Sorting some of the elements is sorting all and keeping these. -/
theorem filter_mergeSort (p : α → Bool) (l : List α) :
    (l.mergeSort le).filter p = (l.filter p).mergeSort le := by
  induction l with
  | nil => rw [List.mergeSort_nil, List.filter_nil, List.mergeSort_nil]
  | cons a l ih =>
    obtain ⟨hcons, hcut⟩ := mergeSort_cons_eq trans total a l
    cases hp : p a with
    | false =>
      have hneg : ¬ p a := Bool.eq_false_iff.mp hp
      rw [List.filter_cons_of_neg hneg, ← ih, hcons, List.filter_append,
        List.filter_cons_of_neg hneg, ← List.filter_append, hcut]
    | true =>
      -- The element cuts what is kept of the sorted list as it cuts the whole of it.
      have hswap (q : α → Bool) :
          ((l.mergeSort le).filter q).filter p = ((l.filter p).mergeSort le).filter q := by
        rw [← ih, List.filter_filter, List.filter_filter]
        exact List.filter_congr fun b _ => Bool.and_comm _ _
      rw [List.filter_cons_of_pos hp, (mergeSort_cons_eq trans total a (l.filter p)).1, hcons,
        List.filter_append, List.filter_cons_of_pos hp, hswap, hswap]

/-- A sublist is sorted to a sublist, also where it lacks elements that stand elsewhere in it. -/
theorem sublist_mergeSort {l m : List α} (h : l.Sublist m) :
    (l.mergeSort le).Sublist (m.mergeSort le) := by
  induction h with
  | slnil => exact .refl _
  | @cons l m a _ ih =>
    obtain ⟨hcons, hcut⟩ := mergeSort_cons_eq trans total a m
    rw [hcons]
    refine ih.trans ?_
    conv_lhs => rw [← hcut]
    exact (List.Sublist.refl _).append (List.sublist_cons_self _ _)
  | @cons_cons l m a _ ih =>
    rw [(mergeSort_cons_eq trans total a l).1, (mergeSort_cons_eq trans total a m).1]
    exact (ih.filter _).append ((ih.filter _).cons_cons a)

end Part

end DocSite
