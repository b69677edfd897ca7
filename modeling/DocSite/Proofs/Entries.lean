import DocSite.Entries
import Mathlib.Data.List.Nodup
import Mathlib.Tactic.Common

/-!
# Entries that are set

* `eq_or_mem_of_mem_set` and `nodup_map_fst_set`: setting a name adds no other entry, and keeps
  names different.
* `lookup_set`: a name that is set is found, and every other name as before.
* `lookup_append_singleton` and `set_append_singleton`: the last entry is found and replaced if none
  before it has its name.
-/

namespace DocSite.Entries

variable {κ α : Type} {name : κ} {a : α} {entries : List (κ × α)}

/-! ### Finding -/

section Finding

variable [BEq κ] [LawfulBEq κ]

theorem mem_of_lookup (h : entries.lookup name = some a) : (name, a) ∈ entries := by
  obtain ⟨before, after, rfl, -⟩ := List.lookup_eq_some_iff.mp h
  exact List.mem_append_right _ List.mem_cons_self

/-- Where names are different, the entry of a name is the only one. -/
theorem lookup_eq_some_iff (h : (entries.map Prod.fst).Nodup) :
    entries.lookup name = some a ↔ (name, a) ∈ entries := by
  refine ⟨mem_of_lookup, fun hmem => ?_⟩
  induction entries with
  | nil => exact absurd hmem List.not_mem_nil
  | cons e rest ih =>
    obtain ⟨he, hrest⟩ := List.nodup_cons.mp h
    rcases List.mem_cons.mp hmem with rfl | hmem
    · exact List.lookup_cons_self
    · have hne : (name == e.1) = false := by
        rw [beq_eq_false_iff_ne]
        rintro rfl
        exact he (List.mem_map.mpr ⟨_, hmem, rfl⟩)
      rw [List.lookup_cons, hne]
      exact ih hrest hmem

theorem lookup_append_singleton (h : entries.lookup name = none) (a : α) :
    (entries ++ [(name, a)]).lookup name = some a := by
  rw [List.lookup_append, h]
  simp

end Finding

/-! ### Setting -/

variable [DecidableEq κ]

theorem set_cons (name : κ) (a : α) (e : κ × α) (rest : List (κ × α)) :
    set name a (e :: rest) = if e.1 = name then (name, a) :: rest else e :: set name a rest :=
  rfl

theorem eq_or_mem_of_mem_set {e : κ × α} (h : e ∈ set name a entries) :
    e = (name, a) ∨ e ∈ entries := by
  induction entries with
  | nil => exact .inl (List.mem_singleton.mp h)
  | cons e' rest ih =>
    rw [set_cons] at h
    split_ifs at h with hname
    · exact (List.mem_cons.mp h).imp_right (List.mem_cons_of_mem _)
    · rcases List.mem_cons.mp h with rfl | h
      · exact .inr List.mem_cons_self
      · exact (ih h).imp_right (List.mem_cons_of_mem _)

theorem nodup_map_fst_set (h : (entries.map Prod.fst).Nodup) :
    ((set name a entries).map Prod.fst).Nodup := by
  induction entries with
  | nil => exact List.nodup_singleton name
  | cons e rest ih =>
    obtain ⟨he, hrest⟩ := List.nodup_cons.mp h
    rw [set_cons]
    split_ifs with hname
    · exact hname ▸ h
    · refine List.nodup_cons.mpr ⟨fun hmem => ?_, ih hrest⟩
      obtain ⟨e', he', heq⟩ := List.mem_map.mp hmem
      rcases eq_or_mem_of_mem_set he' with rfl | he'
      · exact hname heq.symm
      · exact he (List.mem_map.mpr ⟨e', he', heq⟩)

variable [BEq κ] [LawfulBEq κ]

theorem lookup_set (key : κ) :
    (set name a entries).lookup key = if key = name then some a else entries.lookup key := by
  induction entries with
  | nil =>
    refine (List.lookup_cons).trans ?_
    split_ifs with hkey
    · rw [hkey, beq_self_eq_true]
    · rw [beq_eq_false_iff_ne.mpr hkey]
  | cons e rest ih =>
    rw [set_cons]
    split_ifs with hname hkey hkey
    · rw [hkey, List.lookup_cons_self]
    · have hne : (key == e.1) = false := beq_eq_false_iff_ne.mpr (hname ▸ hkey)
      rw [List.lookup_cons, List.lookup_cons, hne, beq_eq_false_iff_ne.mpr hkey]
    · have hne : (key == e.1) = false := beq_eq_false_iff_ne.mpr fun h => hname (h ▸ hkey)
      rw [List.lookup_cons, hne, ih, if_pos hkey]
    · rw [List.lookup_cons, List.lookup_cons, ih, if_neg hkey]

theorem set_append_singleton (h : entries.lookup name = none) (a b : α) :
    set name b (entries ++ [(name, a)]) = entries ++ [(name, b)] := by
  induction entries with
  | nil => exact if_pos rfl
  | cons e rest ih =>
    rw [List.lookup_cons] at h
    split at h
    · cases h
    · rename_i hne
      have hname : e.1 ≠ name := fun heq => by simp [heq] at hne
      rw [List.cons_append, set_cons, if_neg hname, ih h, List.cons_append]

end DocSite.Entries
