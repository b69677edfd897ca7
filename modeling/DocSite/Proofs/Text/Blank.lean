import DocSite.Proofs.Text.LetterCase
import DocSite.Proofs.Text.Runs
import DocSite.Proofs.Text.Sigma

/-!
# Blanks and lowercase

Blanks are neither letters or digits, nor cased or case-ignorable: their table of ranges lies apart
from those tables (`apart`).

* `words_lowercase`: so lowering neither makes nor removes a blank, and no sigma is looked for past
  one. The words of a lowercase text are the lowercase words of the text.
* `words_of_lists`: words that stand between blanks are the words of the text (`Lists`).
-/

namespace DocSite.Text

/-! ### Ranges apart from each other -/

/-- Whether no range of one table meets one of the other. -/
def apart (ranges others : List (ℕ × ℕ)) : Bool :=
  -- `Nat.blt` is evaluated faster than the decision of `<`.
  ranges.all fun r => others.all fun q => r.2.blt q.1 || q.2.blt r.1

theorem inRanges_eq_false_of_apart {ranges others : List (ℕ × ℕ)} (h : apart ranges others)
    {c : Char} (hc : inRanges ranges c) : inRanges others c = false := by
  obtain ⟨r, hr, hin⟩ := List.any_eq_true.mp hc
  rw [inRanges, List.any_eq_false]
  intro q hq
  have hapart := List.all_eq_true.mp (List.all_eq_true.mp h r hr) q hq
  simp only [Bool.or_eq_true, Nat.blt_eq, Bool.and_eq_true, decide_eq_true_eq] at hapart hin ⊢
  omega

/-! ### Blanks -/

theorem isBoundary_of_isBlank {c : Char} (h : isBlank c) : IsBoundary c where
  isCased_eq_false := inRanges_eq_false_of_apart (by decide +kernel : apart whiteSpace cased) h
  isCaseIgnorable_eq_false :=
    inRanges_eq_false_of_apart (by decide +kernel : apart whiteSpace caseIgnorable) h

theorem isAlphanumeric_eq_false_of_isBlank {c : Char} (h : isBlank c) : isAlphanumeric c = false :=
  inRanges_eq_false_of_apart (by decide +kernel : apart whiteSpace alphanumeric) h

theorem isBlank_eq_false_of_isAlphanumeric {c : Char} (h : isAlphanumeric c) :
    isBlank c = false := by
  by_contra hblank
  rw [isAlphanumeric_eq_false_of_isBlank (by simpa using hblank)] at h
  exact Bool.false_ne_true h

/-- Lowering makes no blank. -/
theorem isBlank_eq_false_of_mem_lower {c d : Char} (hc : isBlank c = false) (hd : d ∈ lower c) :
    isBlank d = false := by
  rcases lower_cases c with rfl | hself | ⟨e, he, -, halnum, -⟩
  · have hall : (lower '\u0130').all fun d => !isBlank d := by decide
    simpa using List.all_eq_true.mp hall d hd
  · rw [hself, List.mem_singleton] at hd
    rwa [hd]
  · rw [he, List.mem_singleton] at hd
    rw [hd]
    exact isBlank_eq_false_of_isAlphanumeric halnum

theorem isBlank_eq_false_of_mem_lowercase {s : List Char} (hs : ∀ c ∈ s, isBlank c = false) :
    ∀ d ∈ lowercase s, isBlank d = false := by
  intro d hd
  rcases eq_or_mem_lower_of_mem_lowercase hd with rfl | ⟨c, hc, hd⟩
  · decide
  · exact isBlank_eq_false_of_mem_lower (hs c hc) hd

/-! ### Words of a lowercase text -/

theorem words_of_forall_not_isBlank {w : List Char} (hne : w ≠ [])
    (hw : ∀ c ∈ w, isBlank c = false) : words w = [w] :=
  runs_eq_singleton hne hw

/-- **A text may be lowered before or after it is cut into words.** -/
theorem words_lowercase (s : List Char) : words (lowercase s) = (words s).map lowercase := by
  -- A part without blanks is one word, and lowering leaves it one.
  have hpart : ∀ r, (∀ c ∈ r, isBlank c = false) →
      words (lowercase r) = (words r).map lowercase := by
    intro r hr
    by_cases hne : r = []
    · rw [hne]
      rfl
    · rw [words_of_forall_not_isBlank hne hr, List.map_singleton]
      exact words_of_forall_not_isBlank (lowercase_ne_nil hne)
        (isBlank_eq_false_of_mem_lowercase hr)
  induction s using parts_induction isBlank with
  | last r hr => exact hpart r hr
  | cut r sep s hr hsep ih =>
    -- A blank is its own lowercase, and what stands around it is lowered apart.
    rw [lowercase_append_cons (isBoundary_of_isBlank hsep),
      lower_eq_self_of_not_isAlphanumeric (isAlphanumeric_eq_false_of_isBlank hsep),
      List.singleton_append, words_append_cons _ _ hsep, words_append_cons _ _ hsep,
      List.map_append, hpart r hr, ih]

/-! ### Texts that list words -/

/-- A text lists words: blanks stand between them, and perhaps before the first and after the
last. -/
inductive Lists : List (List Char) → List Char → Prop
  | blanks {gap : List Char} (hgap : ∀ c ∈ gap, isBlank c) : Lists [] gap
  | last {gap w : List Char} (hgap : ∀ c ∈ gap, isBlank c) : Lists [w] (gap ++ w)
  | cons {gap w s : List Char} {c : Char} {ws : List (List Char)} (hgap : ∀ c ∈ gap, isBlank c)
      (hc : isBlank c) (hs : Lists ws s) : Lists (w :: ws) (gap ++ w ++ c :: s)

/-- Words that a text lists are its words. -/
theorem words_of_lists {ws : List (List Char)} {s : List Char} (h : Lists ws s)
    (hws : ∀ w ∈ ws, w ≠ [] ∧ ∀ c ∈ w, isBlank c = false) : words s = ws := by
  have hword {gap w : List Char} (hgap : ∀ c ∈ gap, isBlank c) (hne : w ≠ [])
      (hw : ∀ c ∈ w, isBlank c = false) : words (gap ++ w) = [w] :=
    (runs_append_of_forall_left hgap w).trans (words_of_forall_not_isBlank hne hw)
  induction h with
  | blanks hgap => exact runs_eq_nil_iff.mpr hgap
  | last hgap =>
    obtain ⟨hne, hw⟩ := hws _ List.mem_cons_self
    exact hword hgap hne hw
  | cons hgap hc hs ih =>
    obtain ⟨⟨hne, hw⟩, hws⟩ := List.forall_mem_cons.mp hws
    rw [words_append_cons _ _ hc, hword hgap hne hw, ih hws, List.singleton_append]

end DocSite.Text
