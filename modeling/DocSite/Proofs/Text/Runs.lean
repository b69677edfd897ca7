import DocSite.Text.Blank
import Mathlib.Data.List.Basic
import Mathlib.Data.List.TakeWhile
import Mathlib.Tactic.Common

/-!
# Runs between separators

A text is cut at its separators, and the pieces that are not empty are its runs: the words of a text
are its runs between blanks.

* `runs_append_cons`: a separator parts the runs before it from those after it. What is said of the
  runs of longer texts follows from this equation.
* `runs_intercalate`: runs with one separator between neighbours are cut into themselves.
* `parts_induction`: a property of texts follows from part to part, where the parts have no
  separator.
* `runs_flatMap`: where each separator is replaced by another one, a text is replaced run by run.
* `trim_append`: blanks around a text are dropped, and it has the same words without them
  (`words_trim`).
-/

namespace DocSite.Text

variable {α : Type} {p : α → Bool}

/-- The non-empty pieces of a list between the elements that pass `p`. -/
def runs (p : α → Bool) (s : List α) : List (List α) :=
  (s.splitOnP p).filter (!·.isEmpty)

theorem forall_of_mem_splitOnP {r s : List α} (h : r ∈ s.splitOnP p) :
    ∀ c ∈ r, c ∈ s ∧ p c = false := by
  induction s generalizing r with
  | nil =>
    rw [List.splitOnP_nil, List.mem_singleton] at h
    subst h
    exact fun c hc => absurd hc List.not_mem_nil
  | cons x s ih =>
    have weaken : ∀ {r}, r ∈ s.splitOnP p → ∀ c ∈ r, c ∈ x :: s ∧ p c = false :=
      fun hr c hc => ⟨List.mem_cons_of_mem _ (ih hr c hc).1, (ih hr c hc).2⟩
    rw [List.splitOnP_cons_eq_if_modifyHead] at h
    split_ifs at h with hx
    · rcases List.mem_cons.mp h with rfl | h
      · exact fun c hc => absurd hc List.not_mem_nil
      · exact weaken h
    · -- The first piece grows by `x`, the others are those of `s`.
      obtain ⟨first, rest, hs⟩ := List.exists_cons_of_ne_nil (List.splitOnP_ne_nil p s)
      rw [hs, List.modifyHead_cons] at h
      rcases List.mem_cons.mp h with rfl | h
      · refine List.forall_mem_cons.mpr ⟨⟨List.mem_cons_self, eq_false_of_ne_true hx⟩, ?_⟩
        exact weaken (hs ▸ List.mem_cons_self)
      · exact weaken (hs ▸ List.mem_cons_of_mem _ h)

/-- A run is not empty, its characters are those of the text, and none of them is a separator. -/
theorem forall_of_mem_runs {r s : List α} (h : r ∈ runs p s) :
    r ≠ [] ∧ ∀ c ∈ r, c ∈ s ∧ p c = false := by
  obtain ⟨hr, hne⟩ := List.mem_filter.mp h
  exact ⟨by simpa using hne, forall_of_mem_splitOnP hr⟩

/-- A character that is no separator stands in some piece. -/
theorem exists_mem_splitOnP {c : α} {s : List α} (hc : c ∈ s) (hp : p c = false) :
    ∃ r ∈ s.splitOnP p, c ∈ r := by
  induction s with
  | nil => exact absurd hc List.not_mem_nil
  | cons x s ih =>
    rw [List.splitOnP_cons_eq_if_modifyHead]
    obtain ⟨first, rest, hs⟩ := List.exists_cons_of_ne_nil (List.splitOnP_ne_nil p s)
    split_ifs with hx
    · -- A separator opens a new piece and is in none.
      have hcs : c ∈ s := by
        rcases List.mem_cons.mp hc with rfl | hcs
        · exact absurd hx (ne_true_of_eq_false hp)
        · exact hcs
      obtain ⟨r, hr, hcr⟩ := ih hcs
      exact ⟨r, List.mem_cons_of_mem _ hr, hcr⟩
    · -- Another character is put before the first piece of the rest.
      rw [hs, List.modifyHead_cons]
      rcases List.mem_cons.mp hc with rfl | hcs
      · exact ⟨c :: first, List.mem_cons_self, List.mem_cons_self⟩
      · obtain ⟨r, hr, hcr⟩ := ih hcs
        rw [hs] at hr
        rcases List.mem_cons.mp hr with rfl | hr
        · exact ⟨x :: r, List.mem_cons_self, List.mem_cons_of_mem _ hcr⟩
        · exact ⟨r, List.mem_cons_of_mem _ hr, hcr⟩

@[simp]
theorem runs_nil : runs p [] = [] :=
  rfl

/-- **A separator parts runs.** -/
theorem runs_append_cons (s t : List α) {sep : α} (hsep : p sep) :
    runs p (s ++ sep :: t) = runs p s ++ runs p t := by
  rw [runs, List.splitOnP_append_cons s t hsep, List.filter_append, runs, runs]

theorem runs_cons {sep : α} (hsep : p sep) (t : List α) : runs p (sep :: t) = runs p t := by
  simpa using runs_append_cons [] t hsep

theorem runs_append_of_forall (s : List α) {t : List α} (ht : ∀ c ∈ t, p c) :
    runs p (s ++ t) = runs p s := by
  induction t generalizing s with
  | nil => rw [List.append_nil]
  | cons c t ih =>
    obtain ⟨hc, ht⟩ := List.forall_mem_cons.mp ht
    rw [runs_append_cons s t hc, ← List.nil_append t, ih [] ht, runs_nil, List.append_nil]

theorem runs_append_of_forall_left {s : List α} (hs : ∀ c ∈ s, p c) (t : List α) :
    runs p (s ++ t) = runs p t := by
  induction s with
  | nil => rfl
  | cons c s ih =>
    obtain ⟨hc, hs⟩ := List.forall_mem_cons.mp hs
    rw [List.cons_append, runs_cons hc, ih hs]

/-- A character that is no separator stands in some run. -/
theorem exists_mem_runs {c : α} {s : List α} (hc : c ∈ s) (hp : p c = false) :
    ∃ r ∈ runs p s, c ∈ r := by
  obtain ⟨r, hr, hcr⟩ := exists_mem_splitOnP hc hp
  exact ⟨r, by simp [runs, hr, List.ne_nil_of_mem hcr], hcr⟩

/-- A text of separators has no runs, and no other text is without. -/
theorem runs_eq_nil_iff {s : List α} : runs p s = [] ↔ ∀ c ∈ s, p c := by
  constructor
  · intro h c hc
    by_contra hp
    obtain ⟨r, hr, -⟩ := exists_mem_runs hc (eq_false_of_ne_true hp)
    rw [h] at hr
    exact absurd hr List.not_mem_nil
  · intro h
    rw [← List.nil_append s, runs_append_of_forall [] h, runs_nil]

/-- A text without a separator is one run. -/
theorem runs_eq_singleton {r : List α} (hne : r ≠ []) (hr : ∀ c ∈ r, p c = false) :
    runs p r = [r] := by
  rw [runs, List.splitOnP_eq_singleton hr]
  simpa using hne

/-- Runs that are joined by a separator are the runs of the text. -/
theorem runs_intercalate {sep : α} (hsep : p sep) {rs : List (List α)}
    (h : ∀ r ∈ rs, r ≠ [] ∧ ∀ c ∈ r, p c = false) : runs p ([sep].intercalate rs) = rs := by
  induction rs with
  | nil => rfl
  | cons r rs ih =>
    obtain ⟨⟨hne, hr⟩, h⟩ := List.forall_mem_cons.mp h
    cases rs with
    | nil => rw [List.intercalate_singleton, runs_eq_singleton hne hr]
    | cons q qs =>
      rw [List.intercalate_cons_cons, List.append_assoc, List.singleton_append,
        runs_append_cons _ _ hsep, runs_eq_singleton hne hr, ih h, List.singleton_append]

/-! ### From part to part -/

/-- Induction over a list from separator to separator. -/
@[elab_as_elim]
theorem parts_induction (p : α → Bool) {motive : List α → Prop}
    (last : ∀ r, (∀ c ∈ r, p c = false) → motive r)
    (cut : ∀ r sep s, (∀ c ∈ r, p c = false) → p sep → motive s → motive (r ++ sep :: s))
    (s : List α) : motive s := by
  -- The part that has been read so far grows until a separator comes.
  have hread : ∀ r, (∀ c ∈ r, p c = false) → motive (r ++ s) := by
    induction s with
    | nil =>
      intro r hr
      rw [List.append_nil]
      exact last r hr
    | cons c s ih =>
      intro r hr
      by_cases hc : p c
      · exact cut r c s hr hc (ih [] (List.forall_mem_nil _))
      · rw [List.append_cons]
        refine ih (r ++ [c]) (List.forall_mem_append.mpr ⟨hr, ?_⟩)
        exact List.forall_mem_singleton.mpr (eq_false_of_ne_true hc)
  exact hread [] (List.forall_mem_nil _)

/-- The runs of a text in which every character is replaced, separators by separators, are those of
its replaced runs. -/
theorem runs_flatMap {β : Type} {q : β → Bool} {f : α → List β}
    (hf : ∀ c, p c → ∃ d, f c = [d] ∧ q d) (s : List α) :
    runs q (s.flatMap f) = (runs p s).flatMap fun r => runs q (r.flatMap f) := by
  have hpart : ∀ r, (∀ c ∈ r, p c = false) →
      runs q (r.flatMap f) = (runs p r).flatMap fun r => runs q (r.flatMap f) := by
    intro r hr
    by_cases hne : r = []
    · rw [hne]
      rfl
    · rw [runs_eq_singleton hne hr, List.flatMap_singleton]
  induction s using parts_induction p with
  | last r hr => exact hpart r hr
  | cut r sep s hr hsep ih =>
    obtain ⟨d, hd, hq⟩ := hf sep hsep
    rw [List.flatMap_append, List.flatMap_cons, hd, List.singleton_append, runs_append_cons _ _ hq,
      runs_append_cons _ _ hsep, List.flatMap_append, hpart r hr, ih]

/-- The runs of a text whose characters are replaced one by one, separators and no others by
separators, are its replaced runs. -/
theorem runs_map {β : Type} {q : β → Bool} {f : α → β} (hf : ∀ c, q (f c) = p c) (s : List α) :
    runs q (s.map f) = (runs p s).map (List.map f) := by
  have hrun : ∀ r ∈ runs p s, runs q (r.map f) = [r.map f] := by
    intro r hr
    obtain ⟨hne, hall⟩ := forall_of_mem_runs hr
    refine runs_eq_singleton (by simpa using hne) fun d hd => ?_
    obtain ⟨c, hc, rfl⟩ := List.mem_map.mp hd
    rw [hf, (hall c hc).2]
  have hsep : ∀ c, p c → ∃ d, [f c] = [d] ∧ q d := fun c hc => ⟨f c, rfl, (hf c).trans hc⟩
  rw [List.map_eq_flatMap, runs_flatMap hsep, List.map_eq_flatMap]
  exact List.flatMap_congr fun r hr => by rw [← List.map_eq_flatMap, hrun r hr]

/-! ### Words -/

theorem words_append_cons (s t : List Char) {c : Char} (hc : isBlank c) :
    words (s ++ c :: t) = words s ++ words t :=
  runs_append_cons s t hc

/-- Trimming takes away the blanks around a text that neither starts nor ends with one. -/
theorem trim_append {left s right : List Char} (hleft : ∀ c ∈ left, isBlank c)
    (hright : ∀ c ∈ right, isBlank c) (hne : s ≠ [])
    (hhead : ∀ c ∈ s.head?, isBlank c = false) (hlast : ∀ c ∈ s.getLast?, isBlank c = false) :
    trim (left ++ s ++ right) = s := by
  have hdrop {t rest : List Char} (hne : t ≠ []) (h : ∀ c ∈ t.head?, isBlank c = false) :
      (t ++ rest).dropWhile isBlank = t ++ rest := by
    obtain ⟨c, t, rfl⟩ := List.exists_cons_of_ne_nil hne
    exact List.dropWhile_cons_of_neg (ne_true_of_eq_false (h c rfl))
  have hreverse : ∀ c ∈ right.reverse, isBlank c := fun c hc => hright c (List.mem_reverse.mp hc)
  have hend : s.reverse.dropWhile isBlank = s.reverse := by
    rw [← List.append_nil s.reverse]
    exact hdrop (by simpa using hne) (by simpa using hlast)
  rw [trim, trimStart, List.append_assoc, List.dropWhile_append_of_pos hleft, hdrop hne hhead,
    trimEnd, List.reverse_append, List.dropWhile_append_of_pos hreverse, hend, List.reverse_reverse]

/-- Blanks at the ends of a text belong to no word. -/
theorem words_trim (s : List Char) : words (trim s) = words s := by
  have hstart (t : List Char) : words (trimStart t) = words t := by
    calc words (trimStart t)
        = words (t.takeWhile isBlank ++ trimStart t) :=
          (runs_append_of_forall_left (fun _ => List.mem_takeWhile_imp) _).symm
      _ = words t := by rw [trimStart, List.takeWhile_append_dropWhile]
  have hend (t : List Char) : words (trimEnd t) = words t := by
    have hblank : ∀ c ∈ (t.reverse.takeWhile isBlank).reverse, isBlank c := fun c hc =>
      List.mem_takeWhile_imp (List.mem_reverse.mp hc)
    calc words (trimEnd t)
        = words (trimEnd t ++ (t.reverse.takeWhile isBlank).reverse) :=
          (runs_append_of_forall _ hblank).symm
      _ = words t := by
        rw [trimEnd, ← List.reverse_append, List.takeWhile_append_dropWhile, List.reverse_reverse]
  rw [trim, hend, hstart]

end DocSite.Text
