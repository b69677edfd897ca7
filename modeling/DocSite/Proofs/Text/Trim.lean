import DocSite.Text.Blank
import Mathlib.Data.List.Basic
import Mathlib.Tactic.Common

/-!
# Trimmed texts

* `isTrimmed_trim`: what `trim` leaves neither starts nor ends with a blank, and
  `exists_append_trim`: it is a part of the text.
* `InOrder ws s`: the texts `ws` stand one after the other in `s`, each in a part of its own.
  Nothing of this is lost where these texts and the whole are trimmed (`InOrder.trim`).
-/

namespace DocSite.Text

/-! ### What trimming leaves -/

/-- Neither the first nor the last character is a blank. -/
def IsTrimmed (s : List Char) : Prop :=
  (∀ c ∈ s.head?, isBlank c = false) ∧ ∀ c ∈ s.getLast?, isBlank c = false

theorem not_isBlank_of_mem_head?_trimStart (s : List Char) :
    ∀ c ∈ (trimStart s).head?, isBlank c = false := by
  intro c hc
  unfold trimStart at hc
  have hnot := List.head?_dropWhile_not isBlank s
  rw [Option.mem_def.mp hc] at hnot
  exact hnot

theorem trimEnd_eq_reverse (s : List Char) : trimEnd s = (trimStart s.reverse).reverse :=
  rfl

theorem exists_append_trimStart (s : List Char) : ∃ left, s = left ++ trimStart s :=
  ⟨s.takeWhile isBlank, List.takeWhile_append_dropWhile.symm⟩

theorem exists_trimEnd_append (s : List Char) : ∃ right, s = trimEnd s ++ right := by
  obtain ⟨left, hleft⟩ := exists_append_trimStart s.reverse
  refine ⟨left.reverse, ?_⟩
  rw [trimEnd_eq_reverse, ← List.reverse_append, ← hleft, List.reverse_reverse]

theorem exists_append_trim (s : List Char) : ∃ left right, s = left ++ (trim s ++ right) := by
  obtain ⟨left, hleft⟩ := exists_append_trimStart s
  obtain ⟨right, hright⟩ := exists_trimEnd_append (trimStart s)
  refine ⟨left, right, ?_⟩
  rw [trim, ← hright]
  exact hleft

theorem isTrimmed_trim (s : List Char) : IsTrimmed (trim s) := by
  constructor
  · -- What is cut off at the end does not change the first character, unless nothing is left.
    intro c hc
    apply not_isBlank_of_mem_head?_trimStart s
    obtain ⟨right, hright⟩ := exists_trimEnd_append (trimStart s)
    rw [hright, List.head?_append]
    unfold trim at hc
    rw [Option.mem_def.mp hc]
    rfl
  · intro c hc
    unfold trim at hc
    rw [trimEnd_eq_reverse, List.getLast?_reverse] at hc
    exact not_isBlank_of_mem_head?_trimStart _ c hc

/-! ### Texts in order -/

/-- The texts `ws` stand one after the other in a text: each in a part of its own, which ends before
the part of the next one starts. -/
inductive InOrder : List (List Char) → List Char → Prop
  | nil (s : List Char) : InOrder [] s
  | cons (gap w : List Char) {ws : List (List Char)} {s : List Char} (h : InOrder ws s) :
      InOrder (w :: ws) (gap ++ (w ++ s))

namespace InOrder

variable {ws vs : List (List Char)} {s t : List Char}

theorem append_left (gap : List Char) (h : InOrder ws s) : InOrder ws (gap ++ s) := by
  cases h with
  | nil => exact .nil _
  | cons gap' w h =>
    rw [← List.append_assoc]
    exact .cons _ w h

theorem append (hs : InOrder ws s) (ht : InOrder vs t) : InOrder (ws ++ vs) (s ++ t) := by
  induction hs with
  | nil s => exact ht.append_left s
  | cons gap w _ ih =>
    rw [List.append_assoc, List.append_assoc]
    exact .cons gap w ih

theorem reverse (h : InOrder ws s) : InOrder (ws.map List.reverse).reverse s.reverse := by
  induction h with
  | nil s => exact .nil _
  | cons gap w _ ih =>
    have hlast : InOrder [w.reverse] ([] ++ (w.reverse ++ gap.reverse)) := .cons [] _ (.nil _)
    simpa using ih.append hlast

/-- Blanks in front of a text belong to none of the texts in it, if none of these starts with
one. -/
theorem trimStart (h : InOrder ws s) (hws : ∀ w ∈ ws, ∀ c ∈ w.head?, isBlank c = false) :
    InOrder ws (Text.trimStart s) := by
  induction h with
  | nil s => exact .nil _
  | @cons gap w ws s h ih =>
    obtain ⟨hw, hrest⟩ := List.forall_mem_cons.mp hws
    unfold Text.trimStart at ih ⊢
    rw [List.dropWhile_append]
    split_ifs with hgap
    · -- All of the gap goes, and of the rest only what follows an empty text.
      cases w with
      | nil => exact .cons [] [] (ih hrest)
      | cons c w =>
        rw [List.cons_append, List.dropWhile_cons_of_neg (ne_true_of_eq_false (hw c rfl))]
        exact .cons [] (c :: w) h
    · exact .cons _ w h

theorem trimEnd (h : InOrder ws s) (hws : ∀ w ∈ ws, ∀ c ∈ w.getLast?, isBlank c = false) :
    InOrder ws (Text.trimEnd s) := by
  have hreverse : InOrder (ws.map List.reverse).reverse (Text.trimStart s.reverse) := by
    apply h.reverse.trimStart
    intro w hw
    obtain ⟨v, hv, rfl⟩ := List.mem_map.mp (List.mem_reverse.mp hw)
    rw [List.head?_reverse]
    exact hws v hv
  rw [trimEnd_eq_reverse]
  simpa [Function.comp_def] using hreverse.reverse

theorem map_trim (h : InOrder ws s) : InOrder (ws.map Text.trim) s := by
  induction h with
  | nil s => exact .nil _
  | @cons gap w ws s _ ih =>
    obtain ⟨left, right, hw⟩ := exists_append_trim w
    have hgaps : gap ++ (w ++ s) = (gap ++ left) ++ (Text.trim w ++ (right ++ s)) := by
      conv_lhs => rw [hw]
      simp only [List.append_assoc]
    rw [hgaps, List.map_cons]
    exact .cons _ _ (ih.append_left right)

/-- Texts that are trimmed stand in order in the trimmed whole. -/
theorem trim (h : InOrder ws s) : InOrder (ws.map Text.trim) (Text.trim s) := by
  have htrimmed : ∀ w ∈ ws.map Text.trim, IsTrimmed w := by
    intro w hw
    obtain ⟨v, _, rfl⟩ := List.mem_map.mp hw
    exact isTrimmed_trim v
  rw [Text.trim]
  apply trimEnd
  · exact h.map_trim.trimStart fun w hw => (htrimmed w hw).1
  · exact fun w hw => (htrimmed w hw).2

end InOrder

end DocSite.Text
