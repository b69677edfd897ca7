import DocSite.Text.Lowercase
import Mathlib.Data.List.Basic
import Mathlib.Data.List.Chain
import Mathlib.Tactic.Common

/-!
# Lowering a text twice

`IsLowered c` says that the lowercase of a character is the character itself.

* `isLowered_of_mem_lowercase`: every character of a lowercase text is lowered. The mapping of
  single characters is a table of progressions that are shifted; the shifted ones lie apart from all
  those that are mapped (`image_apart`), so nothing is mapped twice.
* `lowercase_eq_self`: a text of lowered characters is its own lowercase, also where sigmas stand in
  it, because neither of the two small ones is mapped.
-/

namespace DocSite.Text

/-- A character that lowering leaves as it is. -/
def IsLowered (c : Char) : Prop :=
  lower c = [c]

instance (c : Char) : Decidable (IsLowered c) :=
  inferInstanceAs (Decidable (lower c = [c]))

/-! ### Progressions -/

namespace Progression

theorem contains_iff {p : Progression} {n : ℕ} :
    p.contains n ↔ p.first ≤ n ∧ n ≤ p.last ∧ (n - p.first) % p.step = 0 := by
  simp [contains, and_assoc]

/-- Whether all terms have the parity of the first one. -/
def hasParity (p : Progression) : Bool :=
  p.step % 2 == 0 || p.first == p.last

theorem mod_two_of_contains {p : Progression} {n : ℕ} (hp : p.hasParity) (h : p.contains n) :
    n % 2 = p.first % 2 := by
  obtain ⟨hfirst, hlast, hterm⟩ := contains_iff.mp h
  simp only [hasParity, Bool.or_eq_true, beq_iff_eq] at hp
  rcases hp with hstep | hsingle
  · have hdvd : 2 ∣ n - p.first :=
      Nat.dvd_trans (Nat.dvd_of_mod_eq_zero hstep) (Nat.dvd_of_mod_eq_zero hterm)
    omega
  · omega

/-- Progressions that share no term: one ends before the other starts, or their terms differ in
parity. -/
def apart (p q : Progression) : Bool :=
  p.last < q.first || q.last < p.first ||
    p.hasParity && q.hasParity && p.first % 2 != q.first % 2

theorem apart_of_lt {p q : Progression} (h : p.last < q.first ∨ q.last < p.first) : p.apart q := by
  rcases h with hlt | hlt <;> simp [apart, hlt]

/-- Whether a progression is apart from those of an ascending list. The ones that end before it are
passed over, and what starts after its end is not read. -/
def apartFrom (p : Progression) : List Progression → Bool
  | [] => true
  | q :: qs =>
    -- `Nat.blt` is evaluated faster than the decision of `<`.
    bif q.last.blt p.first then p.apartFrom qs
    else p.last.blt q.first || p.apart q && p.apartFrom qs

theorem pairwise_of_isChain {qs : List Progression}
    (h : qs.IsChain fun a b => a.first < b.first) : qs.Pairwise fun a b => a.first ≤ b.first := by
  rw [← List.isChain_map (R := (· < ·)), List.isChain_iff_pairwise, List.pairwise_map] at h
  exact h.imp Nat.le_of_lt

theorem apart_of_apartFrom {p q : Progression} {qs : List Progression}
    (hsorted : qs.Pairwise fun a b => a.first ≤ b.first) (h : p.apartFrom qs) (hq : q ∈ qs) :
    p.apart q := by
  induction qs with
  | nil => exact absurd hq List.not_mem_nil
  | cons a qs ih =>
    obtain ⟨hfirst, hsorted⟩ := List.pairwise_cons.mp hsorted
    rw [apartFrom] at h
    cases hbefore : a.last.blt p.first with
    | true =>
      rw [hbefore, cond_true] at h
      rcases List.mem_cons.mp hq with rfl | hq
      · exact apart_of_lt (.inr (Nat.blt_eq.mp hbefore))
      · exact ih hsorted h hq
    | false =>
      rw [hbefore, cond_false, Bool.or_eq_true, Bool.and_eq_true, Nat.blt_eq] at h
      rcases h with hend | ⟨ha, hrest⟩
      · -- All that is left starts after the end.
        rcases List.mem_cons.mp hq with rfl | hq
        · exact apart_of_lt (.inl hend)
        · exact apart_of_lt (.inl (Nat.lt_of_lt_of_le hend (hfirst q hq)))
      · rcases List.mem_cons.mp hq with rfl | hq
        · exact ha
        · exact ih hsorted hrest hq

theorem not_contains_of_apart {p q : Progression} {n : ℕ} (hapart : p.apart q)
    (h : p.contains n) : q.contains n = false := by
  rw [← Bool.not_eq_true]
  intro hq
  obtain ⟨hpfirst, hplast, -⟩ := contains_iff.mp h
  obtain ⟨hqfirst, hqlast, -⟩ := contains_iff.mp hq
  simp only [apart, Bool.or_eq_true, Bool.and_eq_true, decide_eq_true_eq, bne_iff_ne] at hapart
  rcases hapart with (hlt | hlt) | ⟨⟨hpp, hqp⟩, hparity⟩
  · omega
  · omega
  · exact hparity ((mod_two_of_contains hpp h).symm.trans (mod_two_of_contains hqp hq))

end Progression

/-! ### The mapping of code points -/

namespace CaseShift

/-- The code points to which the terms are mapped. -/
def image (s : CaseShift) : Progression :=
  ⟨((s.terms.first : Int) + s.shift).toNat, ((s.terms.last : Int) + s.shift).toNat, s.terms.step⟩

/-- Whether a shift leads from code points of characters to code points of characters. -/
def isProper (s : CaseShift) : Bool :=
  0 ≤ (s.terms.first : Int) + s.shift &&
    (s.image.last < 0xd800 || 0xdfff < s.image.first && s.image.last < 0x110000)

theorem image_contains {s : CaseShift} {n : ℕ} (hs : s.isProper) (h : s.terms.contains n) :
    s.image.contains ((n : Int) + s.shift).toNat := by
  obtain ⟨hfirst, hlast, hterm⟩ := Progression.contains_iff.mp h
  simp only [isProper, Bool.and_eq_true, decide_eq_true_eq] at hs
  have hdiff : ((n : Int) + s.shift).toNat - ((s.terms.first : Int) + s.shift).toNat
      = n - s.terms.first := by omega
  refine Progression.contains_iff.mpr ⟨?_, ?_, ?_⟩
  · show ((s.terms.first : Int) + s.shift).toNat ≤ _
    omega
  · show _ ≤ ((s.terms.last : Int) + s.shift).toNat
    omega
  · show (_ - ((s.terms.first : Int) + s.shift).toNat) % s.terms.step = 0
    rw [hdiff, hterm]

theorem isValidChar_of_image_contains {s : CaseShift} {m : ℕ} (hs : s.isProper)
    (h : s.image.contains m) : m.isValidChar := by
  obtain ⟨hfirst, hlast, -⟩ := Progression.contains_iff.mp h
  simp only [isProper, Bool.and_eq_true, Bool.or_eq_true, decide_eq_true_eq] at hs
  unfold Nat.isValidChar
  omega

end CaseShift

/-- The code point whose lowercase has two characters. -/
def dottedCapital : Progression :=
  ⟨0x130, 0x130, 1⟩

theorem isProper_of_mem {s : CaseShift} (hs : s ∈ lowercaseShifts) : s.isProper := by
  have hall : lowercaseShifts.all CaseShift.isProper := by decide
  exact List.all_eq_true.mp hall s hs

theorem image_apart_dottedCapital {s : CaseShift} (hs : s ∈ lowercaseShifts) :
    s.image.apart dottedCapital := by
  have hall : lowercaseShifts.all (·.image.apart dottedCapital) := by decide
  exact List.all_eq_true.mp hall s hs

/-- No code point that some code point is mapped to has a mapping of its own. -/
theorem image_apart {s t : CaseShift} (hs : s ∈ lowercaseShifts) (ht : t ∈ lowercaseShifts) :
    s.image.apart t.terms := by
  have hsorted : (lowercaseShifts.map (·.terms)).IsChain fun a b => a.first < b.first := by
    decide +kernel
  have hall : lowercaseShifts.all (·.image.apartFrom (lowercaseShifts.map (·.terms))) := by
    decide +kernel
  exact Progression.apart_of_apartFrom (Progression.pairwise_of_isChain hsorted)
    (List.all_eq_true.mp hall s hs) (List.mem_map_of_mem ht)

/-- A code point without a mapping stays, and another one goes to the image of a shift. -/
theorem lowerCodePoint_eq_or_image_contains (n : ℕ) :
    lowerCodePoint n = n ∨ ∃ s ∈ lowercaseShifts, s.image.contains (lowerCodePoint n) := by
  unfold lowerCodePoint
  cases hfind : lowercaseShifts.find? (·.terms.contains n) with
  | none => exact .inl rfl
  | some s =>
    have hs : s ∈ lowercaseShifts := List.mem_of_find?_eq_some hfind
    have hterm : s.terms.contains n := by simpa using List.find?_some hfind
    exact .inr ⟨s, hs, CaseShift.image_contains (isProper_of_mem hs) hterm⟩

/-- A code point that another one is mapped to is mapped to itself. -/
theorem lowerCodePoint_of_image_contains {s : CaseShift} (hs : s ∈ lowercaseShifts) {m : ℕ}
    (h : s.image.contains m) : lowerCodePoint m = m := by
  have hnone : lowercaseShifts.find? (·.terms.contains m) = none := by
    rw [List.find?_eq_none]
    intro t ht
    rw [Progression.not_contains_of_apart (image_apart hs ht) h]
    exact Bool.false_ne_true
  rw [lowerCodePoint, hnone]

/-! ### Characters -/

theorem toNat_ofNat_of_isValidChar {m : ℕ} (h : m.isValidChar) : (Char.ofNat m).toNat = m := by
  rw [Char.ofNat, dif_pos h]
  rfl

theorem isLowered_ofNat {m : ℕ} (hm : m.isValidChar) (hne : m ≠ 0x130)
    (h : lowerCodePoint m = m) : IsLowered (Char.ofNat m) := by
  have hm' := toNat_ofNat_of_isValidChar hm
  have hdotted : Char.ofNat m ≠ '\u0130' := by
    intro heq
    rw [heq] at hm'
    exact hne hm'.symm
  rw [IsLowered, lower, if_neg hdotted, hm', h]

theorem isLowered_of_mem_lower {c d : Char} (h : d ∈ lower c) : IsLowered d := by
  unfold lower at h
  split_ifs at h with hdotted
  · -- The two characters of a dotted capital letter.
    rcases List.mem_pair.mp h with rfl | rfl <;> decide
  · obtain rfl := List.mem_singleton.mp h
    rcases lowerCodePoint_eq_or_image_contains c.toNat with heq | ⟨s, hs, himage⟩
    · rw [heq, Char.ofNat_toNat, IsLowered, lower, if_neg hdotted, heq, Char.ofNat_toNat]
    · refine isLowered_ofNat (CaseShift.isValidChar_of_image_contains (isProper_of_mem hs) himage)
        ?_ (lowerCodePoint_of_image_contains hs himage)
      intro heq
      have hfalse := Progression.not_contains_of_apart (image_apart_dottedCapital hs) himage
      rw [heq] at hfalse
      exact absurd hfalse (by decide)

/-- The capital sigma is mapped, whatever follows it. -/
theorem not_isLowered_sigma : ¬ IsLowered '\u03a3' := by
  decide

/-! ### Texts -/

theorem isLowered_of_mem_lowercaseFrom {before : Bool} {s : List Char} {d : Char}
    (h : d ∈ lowercaseFrom before s) : IsLowered d := by
  induction s generalizing before with
  | nil => exact absurd h List.not_mem_nil
  | cons c rest ih =>
    rw [lowercaseFrom] at h
    rcases List.mem_append.mp h with h | h
    · split_ifs at h
      · obtain rfl := List.mem_singleton.mp h
        decide
      · obtain rfl := List.mem_singleton.mp h
        decide
      · exact isLowered_of_mem_lower h
    · exact ih h

/-- Every character of a lowercase text is lowered. -/
theorem isLowered_of_mem_lowercase {s : List Char} {d : Char} (h : d ∈ lowercase s) :
    IsLowered d :=
  isLowered_of_mem_lowercaseFrom h

theorem lowercaseFrom_eq_self {s : List Char} (h : ∀ c ∈ s, IsLowered c) (before : Bool) :
    lowercaseFrom before s = s := by
  induction s generalizing before with
  | nil => rfl
  | cons c rest ih =>
    obtain ⟨hc, hrest⟩ := List.forall_mem_cons.mp h
    have hsigma : c ≠ '\u03a3' := fun heq => not_isLowered_sigma (heq ▸ hc)
    rw [lowercaseFrom, if_neg hsigma, hc, ih hrest, List.singleton_append]

/-- A text of lowered characters is its own lowercase. -/
theorem lowercase_eq_self {s : List Char} (h : ∀ c ∈ s, IsLowered c) : lowercase s = s :=
  lowercaseFrom_eq_self h false

end DocSite.Text
