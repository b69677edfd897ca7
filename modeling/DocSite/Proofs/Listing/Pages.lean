import DocSite.Listing.Pages
import Mathlib.Algebra.Order.Floor.Div
import Mathlib.Data.List.Basic
import Mathlib.Tactic.Common

/-!
# Pages cover the listing

* `flatten_chunks`: the pieces of a list put together are the list, and `length_chunks` is their
  number.
* `length_of_mem_dropLast_chunks` and `length_of_mem_chunks`: all pieces but the last are full, and
  the last one is not empty.
* `isPagination_of_paginate`: so pages divide a listing (`IsPagination`), and each of them knows its
  place and whether it has neighbours.
* `infix_of_mem_paginate`: the documents of a page stand together in the listing.
-/

namespace DocSite

variable {α : Type}

/-! ### Pieces of a list -/

theorem flatten_chunks {size : ℕ} (hsize : 0 < size) (xs : List α) :
    (chunks size xs).flatten = xs := by
  fun_induction chunks size xs with
  | case1 xs h =>
    rcases h with rfl | h
    · rfl
    · omega
  | case2 xs h ih => rw [List.flatten_cons, ih, List.take_append_drop]

theorem chunks_eq_nil_iff {size : ℕ} (hsize : 0 < size) {xs : List α} :
    chunks size xs = [] ↔ xs = [] := by
  unfold chunks
  split_ifs with h
  · simpa [hsize.ne'] using h
  · simp_all

/-- The number of pieces is the quotient of the lengths, rounded up. -/
theorem length_chunks {size : ℕ} (hsize : 0 < size) (xs : List α) :
    (chunks size xs).length = xs.length ⌈/⌉ size := by
  rw [Nat.ceilDiv_eq_add_pred_div]
  fun_induction chunks size xs with
  | case1 xs h =>
    obtain rfl : xs = [] := h.resolve_right hsize.ne'
    exact (Nat.div_eq_of_lt (by simp only [List.length_nil]; omega)).symm
  | case2 xs h ih =>
    have hpos : 0 < xs.length := List.length_pos_iff.mpr fun hnil => h (.inl hnil)
    have hrest : (xs.length - size + size - 1) / size = (xs.length - 1) / size := by
      by_cases hle : size ≤ xs.length
      · congr 1
        omega
      · rw [Nat.div_eq_of_lt (by omega), Nat.div_eq_of_lt (by omega)]
    have hsum : xs.length + size - 1 = xs.length - 1 + size := by omega
    rw [List.length_cons, ih, List.length_drop, hrest, hsum, Nat.add_div_right _ hsize]

/-- A piece is not empty and not longer than the size. -/
theorem length_of_mem_chunks {size : ℕ} (hsize : 0 < size) {xs c : List α}
    (hc : c ∈ chunks size xs) : 1 ≤ c.length ∧ c.length ≤ size := by
  fun_induction chunks size xs with
  | case1 xs h => exact absurd hc List.not_mem_nil
  | case2 xs h ih =>
    rcases List.mem_cons.mp hc with rfl | hc
    · have hpos : 0 < xs.length := List.length_pos_iff.mpr fun hnil => h (.inl hnil)
      rw [List.length_take]
      omega
    · exact ih hc

/-- A piece that another one follows is full. -/
theorem length_of_mem_dropLast_chunks {size : ℕ} (hsize : 0 < size) {xs c : List α}
    (hc : c ∈ (chunks size xs).dropLast) : c.length = size := by
  fun_induction chunks size xs with
  | case1 xs h => exact absurd hc List.not_mem_nil
  | case2 xs h ih =>
    by_cases hrest : chunks size (xs.drop size) = []
    · rw [hrest] at hc
      exact absurd hc List.not_mem_nil
    · rw [List.dropLast_cons_of_ne_nil hrest] at hc
      rcases List.mem_cons.mp hc with rfl | hc
      · -- Something is left after the first piece.
        rw [chunks_eq_nil_iff hsize, List.drop_eq_nil_iff] at hrest
        rw [List.length_take]
        omega
      · exact ih hc

/-! ### Pages of a listing -/

/-- Pages divide a listing: put together they are the listing, and all but the last are full. They
are numbered from one, each one has the number of all, and it has a page before or after it exactly
if it says so. -/
structure IsPagination (docs : List Document) (pageSize : ℕ) (pages : List Page) : Prop where
  flatMap_items : pages.flatMap (·.items) = docs
  length_eq : pages.length = docs.length ⌈/⌉ pageSize
  length_of_mem_dropLast : ∀ p ∈ pages.dropLast, p.items.length = pageSize
  length_of_mem : ∀ p ∈ pages, 1 ≤ p.items.length ∧ p.items.length ≤ pageSize
  number_eq : ∀ k p, pages[k]? = some p → p.number = k + 1
  totalPages_eq : ∀ p ∈ pages, p.totalPages = pages.length
  hasPrevious_iff : ∀ p ∈ pages, p.hasPrevious ↔ ∃ q ∈ pages, q.number + 1 = p.number
  hasNext_iff : ∀ p ∈ pages, p.hasNext ↔ ∃ q ∈ pages, q.number = p.number + 1

/-- The pages with some documents each. -/
def numbered (pieces : List (List Document)) : List Page :=
  pieces.zipIdx.map fun (items, i) => ⟨i + 1, pieces.length, items⟩

theorem paginate_eq_ok_iff {docs : List Document} {pageSize : ℕ} {pages : List Page} :
    paginate docs pageSize = .ok pages ↔
      0 < pageSize ∧ numbered (chunks pageSize docs) = pages := by
  rw [paginate]
  split_ifs with hsize
  · simp [hsize]
  · constructor
    · intro h
      cases h
      exact ⟨Nat.pos_of_ne_zero hsize, rfl⟩
    · rintro ⟨-, rfl⟩
      rfl

theorem length_numbered (pieces : List (List Document)) :
    (numbered pieces).length = pieces.length := by
  rw [numbered, List.length_map, List.length_zipIdx]

theorem map_items_numbered (pieces : List (List Document)) :
    (numbered pieces).map (·.items) = pieces := by
  rw [numbered, List.map_map]
  exact List.zipIdx_map_fst 0 pieces

theorem getElem?_numbered_eq_some_iff {pieces : List (List Document)} {k : ℕ} {p : Page} :
    (numbered pieces)[k]? = some p ↔
      ∃ items, pieces[k]? = some items ∧ ⟨k + 1, pieces.length, items⟩ = p := by
  simp [numbered, Option.map_eq_some_iff]

/-- A page with some number is there exactly if the number is not too great. -/
theorem exists_mem_numbered_iff {pieces : List (List Document)} {n : ℕ} :
    (∃ p ∈ numbered pieces, p.number = n) ↔ 1 ≤ n ∧ n ≤ pieces.length := by
  constructor
  · rintro ⟨p, hp, rfl⟩
    obtain ⟨k, hk⟩ := List.mem_iff_getElem?.mp hp
    obtain ⟨items, hitems, rfl⟩ := getElem?_numbered_eq_some_iff.mp hk
    obtain ⟨hlt, -⟩ := List.getElem?_eq_some_iff.mp hitems
    exact ⟨Nat.le_add_left 1 k, hlt⟩
  · rintro ⟨hpos, hle⟩
    have hlt : n - 1 < pieces.length := by omega
    refine ⟨⟨n - 1 + 1, pieces.length, pieces[n - 1]⟩, List.mem_iff_getElem?.mpr ⟨n - 1, ?_⟩, ?_⟩
    · exact getElem?_numbered_eq_some_iff.mpr ⟨_, List.getElem?_eq_getElem hlt, rfl⟩
    · exact Nat.sub_add_cancel hpos

theorem isPagination_of_paginate {docs : List Document} {pageSize : ℕ} {pages : List Page}
    (h : paginate docs pageSize = .ok pages) : IsPagination docs pageSize pages := by
  obtain ⟨hsize, rfl⟩ := paginate_eq_ok_iff.mp h
  have hitems := map_items_numbered (chunks pageSize docs)
  have hpage : ∀ p ∈ numbered (chunks pageSize docs), p.number ≤ (chunks pageSize docs).length ∧
      1 ≤ p.number ∧ p.totalPages = (chunks pageSize docs).length := by
    intro p hp
    obtain ⟨hpos, hle⟩ := exists_mem_numbered_iff.mp ⟨p, hp, rfl⟩
    obtain ⟨k, hk⟩ := List.mem_iff_getElem?.mp hp
    obtain ⟨items, -, rfl⟩ := getElem?_numbered_eq_some_iff.mp hk
    exact ⟨hle, hpos, rfl⟩
  refine ⟨?_, ?_, fun p hp => ?_, fun p hp => ?_, fun k p hk => ?_, fun p hp => ?_, fun p hp => ?_,
    fun p hp => ?_⟩
  · rw [List.flatMap_def, hitems, flatten_chunks hsize]
  · rw [length_numbered, length_chunks hsize]
  · have hmem : p.items ∈ (chunks pageSize docs).dropLast := by
      rw [← hitems, ← List.map_dropLast]
      exact List.mem_map_of_mem hp
    exact length_of_mem_dropLast_chunks hsize hmem
  · have hmem : p.items ∈ chunks pageSize docs := by
      rw [← hitems]
      exact List.mem_map_of_mem hp
    exact length_of_mem_chunks hsize hmem
  · obtain ⟨items, -, rfl⟩ := getElem?_numbered_eq_some_iff.mp hk
    rfl
  · rw [length_numbered]
    exact (hpage p hp).2.2
  · obtain ⟨hle, hpos, -⟩ := hpage p hp
    have hprevious : (∃ q ∈ numbered (chunks pageSize docs), q.number + 1 = p.number) ↔
        ∃ q ∈ numbered (chunks pageSize docs), q.number = p.number - 1 :=
      exists_congr fun q => and_congr_right fun _ => by omega
    rw [hprevious, exists_mem_numbered_iff, Page.hasPrevious, decide_eq_true_iff]
    omega
  · obtain ⟨hle, hpos, htotal⟩ := hpage p hp
    rw [exists_mem_numbered_iff, Page.hasNext, decide_eq_true_iff, htotal]
    omega

/-- The documents of a page are a stretch of the listing. -/
theorem infix_of_mem_paginate {docs : List Document} {pageSize : ℕ} {pages : List Page}
    (h : paginate docs pageSize = .ok pages) {p : Page} (hp : p ∈ pages) : p.items <:+: docs := by
  have hflat := (isPagination_of_paginate h).flatMap_items
  rw [List.flatMap_def] at hflat
  rw [← hflat]
  exact List.infix_of_mem_flatten (List.mem_map_of_mem hp)

end DocSite
