import DocSite.Listing.Basic
import DocSite.Proofs.Listing.Identity

/-!
# The neighbours of documents link a listing

A document is looked up by its id, and its neighbours are what stands around the place where it is
found.

* `neighbours_append_cons`: if no earlier document has the id, these are the last document before
  and the first one after.
* `next_eq_some_iff` and `previous_eq_some_iff`: where ids are different, both directions follow the
  same links (`Adjacent`).
* `Walk` follows the next document until there is none. There is one walk from each document
  (`Walk.unique`), and it leads to the end of the listing (`walk_append_cons`).
* `neighbours_of_listing` puts these together, and says when the ids of a folder are different.
-/

namespace DocSite

variable {docs before after : List Document} {d e : Document}

/-! ### Around a place of a listing -/

theorem neighbours_append_cons (h : ∀ b ∈ before, b.id ≠ d.id) :
    neighbours (before ++ d :: after) d = ⟨before.getLast?, after.head?⟩ := by
  have hfind : (before ++ d :: after).findIdx? (·.id == d.id) = some before.length := by
    have hnone : before.findIdx? (·.id == d.id) = none :=
      List.findIdx?_eq_none_iff.mpr fun b hb => beq_eq_false_iff_ne.mpr (h b hb)
    rw [List.findIdx?_append, hnone, List.findIdx?_cons, beq_self_eq_true]
    simp
  have hnext : (before ++ d :: after)[before.length + 1]? = after.head? := by
    rw [List.getElem?_append_right (Nat.le_add_right _ 1), Nat.add_sub_cancel_left,
      List.getElem?_cons_succ, List.head?_eq_getElem?]
  have hprevious : (if before.length = 0 then none
      else (before ++ d :: after)[before.length - 1]?) = before.getLast? := by
    split_ifs with hzero
    · rw [List.length_eq_zero_iff.mp hzero, List.getLast?_nil]
    · rw [List.getElem?_append_left (by omega), List.getLast?_eq_getElem?]
  rw [neighbours, hfind]
  dsimp only
  rw [hprevious, hnext]

/-- A document whose id is not in a listing has no neighbours there. -/
theorem neighbours_of_not_mem (h : ∀ e ∈ docs, e.id ≠ d.id) : neighbours docs d = {} := by
  have hnone : docs.findIdx? (·.id == d.id) = none :=
    List.findIdx?_eq_none_iff.mpr fun e he => beq_eq_false_iff_ne.mpr (h e he)
  rw [neighbours, hnone]

/-! ### Links -/

/-- Two documents stand one after the other. -/
def Adjacent (docs : List Document) (d e : Document) : Prop :=
  ∃ before after, docs = before ++ d :: e :: after

/-- Where ids are different, the documents before a place have other ids than the one there. -/
theorem id_ne_of_nodup (hids : ((before ++ d :: after).map (·.id)).Nodup) :
    ∀ b ∈ before, b.id ≠ d.id := by
  intro b hb
  rw [List.map_append, List.nodup_append] at hids
  exact hids.2.2 _ (List.mem_map_of_mem hb) _ (List.mem_map_of_mem List.mem_cons_self)

section Links

variable (hids : (docs.map (·.id)).Nodup)
include hids

theorem next_eq_some_iff (hd : d ∈ docs) :
    (neighbours docs d).next = some e ↔ Adjacent docs d e := by
  constructor
  · obtain ⟨before, after, rfl⟩ := List.append_of_mem hd
    rw [neighbours_append_cons (id_ne_of_nodup hids), List.head?_eq_some_iff]
    rintro ⟨after, rfl⟩
    exact ⟨before, after, rfl⟩
  · rintro ⟨before, after, rfl⟩
    rw [neighbours_append_cons (id_ne_of_nodup hids), List.head?_cons]

theorem previous_eq_some_iff (he : e ∈ docs) :
    (neighbours docs e).previous = some d ↔ Adjacent docs d e := by
  constructor
  · obtain ⟨before, after, rfl⟩ := List.append_of_mem he
    rw [neighbours_append_cons (id_ne_of_nodup hids), List.getLast?_eq_some_iff]
    rintro ⟨before, rfl⟩
    exact ⟨before, after, by rw [List.append_assoc, List.singleton_append]⟩
  · rintro ⟨before, after, rfl⟩
    rw [List.append_cons] at hids ⊢
    rw [neighbours_append_cons (id_ne_of_nodup hids), List.getLast?_concat]

theorem previous_eq_none_iff (hd : d ∈ docs) :
    (neighbours docs d).previous = none ↔ docs.head? = some d := by
  obtain ⟨before, after, rfl⟩ := List.append_of_mem hd
  have hne := id_ne_of_nodup hids
  rw [neighbours_append_cons hne, List.getLast?_eq_none_iff]
  cases before with
  | nil => simp
  | cons b before =>
    have hfirst : b ≠ d := fun h => hne b List.mem_cons_self (congrArg _ h)
    simp [hfirst]

theorem next_eq_none_iff (hd : d ∈ docs) :
    (neighbours docs d).next = none ↔ docs.getLast? = some d := by
  obtain ⟨before, after, rfl⟩ := List.append_of_mem hd
  rw [neighbours_append_cons (id_ne_of_nodup hids), List.head?_eq_none_iff]
  constructor
  · rintro rfl
    exact List.getLast?_concat
  · -- The last document stands once, so nothing comes after it.
    intro hlast
    by_contra hne
    have hmem : d ∈ after := by
      rw [List.getLast?_append, List.getLast?_cons, List.getLast?_eq_some_getLast hne] at hlast
      obtain rfl : after.getLast hne = d := by simpa using hlast
      exact List.getLast_mem hne
    rw [List.map_append, List.nodup_append, List.map_cons, List.nodup_cons] at hids
    exact hids.2.1.1 (List.mem_map_of_mem hmem)

end Links

/-! ### Walks -/

/-- The documents that are met on following the next one until there is none. -/
inductive Walk (docs : List Document) : Document → List Document → Prop where
  | last {d : Document} (h : (neighbours docs d).next = none) : Walk docs d [d]
  | step {d e : Document} {path : List Document} (h : (neighbours docs d).next = some e)
      (rest : Walk docs e path) : Walk docs d (d :: path)

theorem Walk.unique {p q : List Document} (hp : Walk docs d p) (hq : Walk docs d q) : p = q := by
  induction hp generalizing q with
  | last hend =>
    cases hq with
    | last => rfl
    | step hnext =>
      rw [hend] at hnext
      cases hnext
  | step hnext _ ih =>
    cases hq with
    | last hend =>
      rw [hend] at hnext
      cases hnext
    | step hnext' hrest =>
      obtain rfl := Option.some.inj (hnext.symm.trans hnext')
      rw [ih hrest]

/-- A walk from any place leads through all that follows. -/
theorem walk_append_cons (hids : ((before ++ d :: after).map (·.id)).Nodup) :
    Walk (before ++ d :: after) d (d :: after) := by
  induction after generalizing before d with
  | nil =>
    refine .last ?_
    rw [neighbours_append_cons (id_ne_of_nodup hids), List.head?_nil]
  | cons e after ih =>
    refine .step (e := e) ?_ ?_
    · rw [neighbours_append_cons (id_ne_of_nodup hids), List.head?_cons]
    · rw [List.append_cons] at hids ⊢
      exact ih hids

/-- The walk from the first document is the listing. -/
theorem walk_iff_eq (hids : (docs.map (·.id)).Nodup) (hfirst : docs.head? = some d)
    (path : List Document) : Walk docs d path ↔ path = docs := by
  obtain ⟨after, rfl⟩ := List.head?_eq_some_iff.mp hfirst
  have hwalk : Walk ([] ++ d :: after) d (d :: after) := walk_append_cons hids
  constructor
  · intro h
    exact h.unique hwalk
  · rintro rfl
    exact hwalk

/-- **Neighbours link a listing.** Let the ids of a listing be different, as they are where it comes
from a folder in which the names of pages are texts. Then the next document of one is another
exactly where the previous one of that is the first; only the first document has no previous one,
and only the last one has no next one. Following the next document from the first one leads through
the listing, each document once, and there it ends. A document whose id is not in a listing has
neither neighbour. -/
theorem neighbours_of_listing (docs : List Document) :
    ((docs.map (·.id)).Nodup →
      (∀ d ∈ docs, ∀ e ∈ docs,
        (neighbours docs d).next = some e ↔ (neighbours docs e).previous = some d) ∧
      (∀ d ∈ docs, (neighbours docs d).previous = none ↔ docs.head? = some d) ∧
      (∀ d ∈ docs, (neighbours docs d).next = none ↔ docs.getLast? = some d) ∧
      docs.Nodup ∧ ∀ d, docs.head? = some d → ∀ path, Walk docs d path ↔ path = docs) ∧
    (∀ d, (∀ e ∈ docs, e.id ≠ d.id) →
      (neighbours docs d).previous = none ∧ (neighbours docs d).next = none) ∧
    ∀ order read refuses disk root, disk.Proper → Folder.HasTextNames disk root →
      collect order (Folder.recordsWith read refuses disk root) = .ok docs →
        (docs.map (·.id)).Nodup := by
  refine ⟨fun hids => ⟨fun d hd e he => ?_, fun d => previous_eq_none_iff hids,
    fun d => next_eq_none_iff hids, hids.of_map _, fun d => walk_iff_eq hids⟩, fun d hd => ?_,
    fun order read refuses disk root => nodup_ids_of_folder⟩
  · rw [next_eq_some_iff hids hd, previous_eq_some_iff hids he]
  · rw [neighbours_of_not_mem hd]
    exact ⟨rfl, rfl⟩

/-- Three documents, of which two differ in their ids only, and a fourth one that is not listed. -/
theorem neighbours_of_listing_of_copies :
    let a : Document := { id := "a", slug := "x", title := "X" }
    let b : Document := { id := "b", slug := "x", title := "X" }
    let c : Document := { id := "c", slug := "y", title := "Y" }
    let d : Document := { id := "d", slug := "x", title := "X" }
    let docs := [b, a, c]
    (docs.map (·.id)).Nodup ∧ (neighbours docs b).next = some a ∧
      (neighbours docs a).previous = some b ∧ (neighbours docs b).previous = none ∧
      (neighbours docs c).next = none ∧ Walk docs b [b, a, c] ∧ (∀ e ∈ docs, e.id ≠ d.id) ∧
      (neighbours docs d).previous = none ∧ (neighbours docs d).next = none := by
  intro a b c d docs
  have hids : (docs.map (·.id)).Nodup := by decide
  have hother : ∀ e ∈ docs, e.id ≠ d.id := by decide
  obtain ⟨hlinks, hnone, -⟩ := neighbours_of_listing docs
  obtain ⟨hlink, hfirst, hlast, -, hwalk⟩ := hlinks hids
  have hnext : (neighbours docs b).next = some a := by decide
  exact ⟨hids, hnext, (hlink b (by decide) a (by decide)).mp hnext, (hfirst b (by decide)).mpr rfl,
    (hlast c (by decide)).mpr rfl, (hwalk b rfl docs).mpr rfl, hother, hnone d hother⟩

end DocSite
