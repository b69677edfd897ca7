import Mathlib.Data.List.Nodup
import Mathlib.Data.List.Perm.Basic

/-!
# Distinct elements of a list

`List.eraseDups` keeps the first occurrence of each element: nothing stands twice in what is left
(`nodup_eraseDups`), and lists with the same members leave the same elements
(`eraseDups_perm_of_mem_iff`). Distinct elements are counted in any other list at least as often
(`countP_le_countP_of_nodup`), so two lists of them have as many members in common either way
(`countP_contains_comm`).
-/

namespace DocSite

variable {α : Type} [BEq α] [LawfulBEq α]

theorem nodup_eraseDups (l : List α) : l.eraseDups.Nodup := by
  cases l with
  | nil => exact .nil
  | cons a rest =>
    rw [List.eraseDups_cons, List.nodup_cons, List.mem_eraseDups]
    exact ⟨by simp, nodup_eraseDups _⟩
termination_by l.length
decreasing_by exact Nat.lt_succ_of_le (List.length_filter_le _ _)

/-- How often and in what order elements occur changes their order only. -/
theorem eraseDups_perm_of_mem_iff {l m : List α} (h : ∀ a, a ∈ l ↔ a ∈ m) :
    l.eraseDups.Perm m.eraseDups := by
  rw [List.perm_ext_iff_of_nodup (nodup_eraseDups l) (nodup_eraseDups m)]
  intro a
  rw [List.mem_eraseDups, List.mem_eraseDups, h]

/-- Distinct elements that are counted are no more than those of a list where each of them stands
and is counted too. -/
theorem countP_le_countP_of_nodup {α : Type} {l m : List α} {p q : α → Bool} (hl : l.Nodup)
    (h : ∀ a ∈ l, p a → a ∈ m ∧ q a) : l.countP p ≤ m.countP q := by
  rw [List.countP_eq_length_filter, List.countP_eq_length_filter]
  refine (List.subperm_of_subset (hl.filter p) fun a ha => ?_).length_le
  obtain ⟨hmem, hp⟩ := List.mem_filter.mp ha
  exact List.mem_filter.mpr (h a hmem hp)

/-- Distinct elements of `l` are found in `m` no more often than elements of `m` in `l`. -/
theorem countP_contains_le {l : List α} (hl : l.Nodup) (m : List α) :
    l.countP (m.contains ·) ≤ m.countP (l.contains ·) := by
  refine countP_le_countP_of_nodup hl fun a ha hm => ⟨?_, ?_⟩
  · exact List.contains_iff_mem.mp hm
  · exact List.contains_iff_mem.mpr ha

theorem countP_contains_comm {l m : List α} (hl : l.Nodup) (hm : m.Nodup) :
    l.countP (m.contains ·) = m.countP (l.contains ·) :=
  Nat.le_antisymm (countP_contains_le hl m) (countP_contains_le hm l)

end DocSite
