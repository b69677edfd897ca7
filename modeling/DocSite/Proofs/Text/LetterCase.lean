import DocSite.Proofs.Text.Lowercase
import DocSite.Text.Alphanumeric
import Mathlib.Data.List.Sort
import Mathlib.Data.List.TakeWhile

/-!
# Lowercase of letters and digits

Only letters and digits have another character as their lowercase, and then it is a letter or a
digit that is not uppercase (`lower_cases`). The tables are compared by their progressions: they lie
within the ranges of letters and digits (`covers`), and their images apart from those of uppercase.
-/

namespace DocSite.Text

/-! ### Progressions within ranges -/

/-- Ranges for the terms of a progression: one from end to end if it has steps of one, and else one
for each term. -/
def Progression.spans (p : Progression) : List (ℕ × ℕ) :=
  if p.step = 1 then [(p.first, p.last)]
  else (List.range' p.first ((p.last - p.first) / p.step + 1) p.step).map fun n => (n, n)

theorem Progression.exists_mem_spans {p : Progression} {n : ℕ} (h : p.contains n) :
    ∃ q ∈ p.spans, q.1 ≤ n ∧ n ≤ q.2 := by
  obtain ⟨hfirst, hlast, hterm⟩ := contains_iff.mp h
  rw [spans]
  split_ifs
  · exact ⟨_, List.mem_singleton.mpr rfl, hfirst, hlast⟩
  · have hindex : (n - p.first) / p.step ≤ (p.last - p.first) / p.step :=
      Nat.div_le_div_right (by omega)
    have hn : n = p.first + p.step * ((n - p.first) / p.step) := by
      rw [Nat.mul_div_cancel' (Nat.dvd_of_mod_eq_zero hterm)]
      omega
    refine ⟨(n, n), List.mem_map_of_mem (List.mem_range'.mpr ⟨_, ?_, hn⟩), Nat.le_refl n,
      Nat.le_refl n⟩
    omega

/-- Whether nothing is left of ascending spans after each range has taken those at the front that
lie in it. -/
def covers (ranges spans : List (ℕ × ℕ)) : Bool :=
  -- `Nat.ble` is evaluated faster than the decision of `≤`.
  (ranges.foldl (fun left r => left.dropWhile fun q => r.1.ble q.1 && q.2.ble r.2) spans).isEmpty

theorem exists_range_of_covers {ranges spans : List (ℕ × ℕ)} (h : covers ranges spans)
    {q : ℕ × ℕ} (hq : q ∈ spans) : ∃ r ∈ ranges, r.1 ≤ q.1 ∧ q.2 ≤ r.2 := by
  induction ranges generalizing spans with
  | nil =>
    obtain rfl : spans = [] := List.isEmpty_iff.mp h
    exact absurd hq List.not_mem_nil
  | cons r ranges ih =>
    rw [← List.takeWhile_append_dropWhile (p := fun q => r.1.ble q.1 && q.2.ble r.2) (l := spans),
      List.mem_append] at hq
    rcases hq with htaken | hleft
    · have hends := List.mem_takeWhile_imp htaken
      rw [Bool.and_eq_true, Nat.ble_eq, Nat.ble_eq] at hends
      exact ⟨r, List.mem_cons_self, hends⟩
    · obtain ⟨r', hr', hends⟩ := ih h hleft
      exact ⟨r', List.mem_cons_of_mem _ hr', hends⟩

theorem inRanges_of_covers {ranges spans : List (ℕ × ℕ)} (h : covers ranges spans)
    {p : Progression} (hp : ∀ q ∈ p.spans, q ∈ spans) {c : Char} (hc : p.contains c.toNat) :
    inRanges ranges c := by
  obtain ⟨q, hq, hfirst, hlast⟩ := Progression.exists_mem_spans hc
  obtain ⟨r, hr, hlo, hhi⟩ := exists_range_of_covers h (hp q hq)
  refine List.any_eq_true.mpr ⟨r, hr, ?_⟩
  simp only [Bool.and_eq_true, decide_eq_true_eq]
  omega

/-! ### Tables -/

theorem isAlphanumeric_of_terms_contains {s : CaseShift} (hs : s ∈ lowercaseShifts) {c : Char}
    (h : s.terms.contains c.toNat) : isAlphanumeric c := by
  have hall : covers alphanumeric (lowercaseShifts.flatMap (·.terms.spans)) := by decide +kernel
  exact inRanges_of_covers hall (fun q hq => List.mem_flatMap.mpr ⟨s, hs, hq⟩) h

theorem isAlphanumeric_of_image_contains {s : CaseShift} (hs : s ∈ lowercaseShifts) {c : Char}
    (h : s.image.contains c.toNat) : isAlphanumeric c := by
  -- The images have to be sorted, unlike the terms.
  let images := (lowercaseShifts.map (·.image)).insertionSort fun p q => p.first ≤ q.first
  have hall : covers alphanumeric (images.flatMap (·.spans)) := by decide +kernel
  have himage : s.image ∈ images := (List.mem_insertionSort _).mpr (List.mem_map_of_mem hs)
  exact inRanges_of_covers hall (fun q hq => List.mem_flatMap.mpr ⟨_, himage, hq⟩) h

/-- What a code point is mapped to is not uppercase. -/
theorem isUppercase_eq_false_of_image_contains {s : CaseShift} (hs : s ∈ lowercaseShifts)
    {c : Char} (h : s.image.contains c.toNat) : isUppercase c = false := by
  have hsorted : uppercase.IsChain fun a b => a.first < b.first := by decide +kernel
  have hall : lowercaseShifts.all (·.image.apartFrom uppercase) := by decide +kernel
  rw [isUppercase, inProgressions, List.any_eq_false]
  intro p hp
  have hapart : s.image.apart p := Progression.apart_of_apartFrom
    (Progression.pairwise_of_isChain hsorted) (List.all_eq_true.mp hall s hs) hp
  rw [Progression.not_contains_of_apart hapart h]
  exact Bool.false_ne_true

/-! ### Characters -/

theorem lower_ne_nil (c : Char) : lower c ≠ [] := by
  unfold lower
  split_ifs <;> exact List.cons_ne_nil _ _

/-- The lowercase of a character is that of U+0130, the character itself, or another letter or digit
that is not uppercase; in the last case the character is a letter or a digit too. -/
theorem lower_cases (c : Char) :
    c = '\u0130' ∨ lower c = [c] ∨
      ∃ d, lower c = [d] ∧ isAlphanumeric c ∧ isAlphanumeric d ∧ isUppercase d = false := by
  by_cases hdotted : c = '\u0130'
  · exact .inl hdotted
  right
  rw [lower, if_neg hdotted, lowerCodePoint]
  cases hfind : lowercaseShifts.find? (·.terms.contains c.toNat) with
  | none => exact .inl (by rw [Char.ofNat_toNat])
  | some s =>
    have hs : s ∈ lowercaseShifts := List.mem_of_find?_eq_some hfind
    have hterm : s.terms.contains c.toNat := by simpa using List.find?_some hfind
    have himage := CaseShift.image_contains (isProper_of_mem hs) hterm
    -- The mapped code point is that of a character.
    rw [← toNat_ofNat_of_isValidChar
      (CaseShift.isValidChar_of_image_contains (isProper_of_mem hs) himage)] at himage
    exact .inr ⟨_, rfl, isAlphanumeric_of_terms_contains hs hterm,
      isAlphanumeric_of_image_contains hs himage, isUppercase_eq_false_of_image_contains hs himage⟩

/-- A character that is no letter or digit is its own lowercase. -/
theorem lower_eq_self_of_not_isAlphanumeric {c : Char} (h : isAlphanumeric c = false) :
    lower c = [c] := by
  rcases lower_cases c with rfl | hself | ⟨d, -, halnum, -⟩
  · exact absurd h (by decide)
  · exact hself
  · exact absurd halnum (ne_true_of_eq_false h)

end DocSite.Text
