import DocSite.Number.Binary64
import Mathlib.Algebra.Order.Field.Power
import Mathlib.Algebra.Order.Field.Rat
import Mathlib.Tactic.Common
import Mathlib.Tactic.Linarith
import Mathlib.Tactic.Positivity
import Mathlib.Tactic.Ring

/-!
# The values of binary64 numbers

`Binary64.value` is the rational number that a binary64 number stands for.

* `le_iff`: numbers are ordered as their values, so `le` is a total preorder (`le_trans`,
  `le_total`).
* `isNormal_nearest`: what rounding gives is zero or has a significand of exactly 53 bits, and so
  have sums and products.
* `eq_of_value_eq`: two such numbers of the same value are the same number.
-/

namespace DocSite.Number

/-- Rounding takes the integer part of a quotient or the integer after it. -/
theorem roundEven_bounds (num den : Nat) :
    num / den ≤ roundEven num den ∧ roundEven num den ≤ num / den + 1 := by
  unfold roundEven
  dsimp only
  split_ifs <;> omega

namespace Binary64

/-- The rational number that a binary64 number stands for. -/
def value (a : Binary64) : ℚ :=
  a.significand * 2 ^ a.exponent

theorem value_nonneg (a : Binary64) : 0 ≤ a.value :=
  mul_nonneg (Nat.cast_nonneg _) (zpow_pos two_pos _).le

/-! ### The order -/

/-- A significand at a smaller exponent stands for the same number. -/
theorem value_eq_of_le {a : Binary64} {e : Int} (he : e ≤ a.exponent) :
    a.value = (a.significand * 2 ^ (a.exponent - e).toNat : Nat) * 2 ^ e := by
  have hsplit : (2 : ℚ) ^ a.exponent = 2 ^ (a.exponent - e).toNat * 2 ^ e := by
    rw [← zpow_natCast, ← zpow_add₀ two_ne_zero]
    congr 1
    omega
  rw [value, hsplit, ← mul_assoc]
  push_cast
  rfl

/-- Aligned significands stand for the same numbers as before. -/
theorem value_align (a b : Binary64) :
    a.value = (align a b).1 * 2 ^ (align a b).2.2 ∧
      b.value = (align a b).2.1 * 2 ^ (align a b).2.2 :=
  ⟨value_eq_of_le (min_le_left _ _), value_eq_of_le (min_le_right _ _)⟩

/-- Numbers are ordered as their values. -/
theorem le_iff (a b : Binary64) : a.le b ↔ a.value ≤ b.value := by
  obtain ⟨ha, hb⟩ := value_align a b
  have hpos : (0 : ℚ) < 2 ^ (align a b).2.2 := zpow_pos two_pos _
  rw [ha, hb, mul_le_mul_iff_of_pos_right hpos, Nat.cast_le]
  exact decide_eq_true_iff

theorem le_trans (a b c : Binary64) (hab : a.le b) (hbc : b.le c) : a.le c := by
  rw [le_iff] at hab hbc ⊢
  linarith

theorem le_total (a b : Binary64) : a.le b || b.le a := by
  rw [Bool.or_eq_true, le_iff, le_iff]
  exact Rat.le_total

/-! ### Normal numbers -/

/-- Zero, or a number whose significand has exactly 53 bits. -/
def IsNormal (a : Binary64) : Prop :=
  a = zero ∨ 2 ^ 52 ≤ a.significand ∧ a.significand < 2 ^ 53

/-- The quotient by a power of two that leaves 53 bits. -/
theorem div_pow_bounds {m : Nat} (h : 52 < m.log2) :
    2 ^ 52 ≤ m / 2 ^ (m.log2 - 52) ∧ m / 2 ^ (m.log2 - 52) < 2 ^ 53 := by
  have hpos : 0 < 2 ^ (m.log2 - 52) := Nat.two_pow_pos _
  have hm : m ≠ 0 := by
    rintro rfl
    exact absurd h (by decide)
  constructor
  · rw [Nat.le_div_iff_mul_le hpos, ← Nat.pow_add, Nat.add_sub_cancel' h.le]
    exact Nat.log2_self_le hm
  · rw [Nat.div_lt_iff_lt_mul hpos, ← Nat.pow_add]
    have hexp : 53 + (m.log2 - 52) = m.log2 + 1 := by omega
    rw [hexp]
    exact Nat.lt_log2_self

/-- Rounding gives a normal number. -/
theorem isNormal_nearest (m : Nat) (e : Int) : (nearest m e).IsNormal := by
  unfold nearest
  split_ifs with hm hlog
  · exact .inl rfl
  · -- The bits of `m` are moved to the front.
    right
    show 2 ^ 52 ≤ m * 2 ^ (52 - m.log2) ∧ m * 2 ^ (52 - m.log2) < 2 ^ 53
    have hsplit : 2 ^ m.log2 * 2 ^ (52 - m.log2) = 2 ^ 52 := by
      rw [← Nat.pow_add, Nat.add_sub_cancel' hlog]
    have hlo : 2 ^ m.log2 ≤ m := Nat.log2_self_le hm
    have hhi : m < 2 ^ (m.log2 + 1) := Nat.lt_log2_self
    constructor
    · calc 2 ^ 52 = 2 ^ m.log2 * 2 ^ (52 - m.log2) := hsplit.symm
        _ ≤ m * 2 ^ (52 - m.log2) := Nat.mul_le_mul_right _ hlo
    · calc m * 2 ^ (52 - m.log2) < 2 ^ (m.log2 + 1) * 2 ^ (52 - m.log2) :=
            Nat.mul_lt_mul_of_pos_right hhi (Nat.two_pow_pos _)
        _ = 2 * (2 ^ m.log2 * 2 ^ (52 - m.log2)) := by ring
        _ = 2 ^ 53 := by rw [hsplit]; rfl
  · obtain ⟨hlo, hhi⟩ := div_pow_bounds (Nat.lt_of_not_le hlog)
    obtain ⟨hle, hge⟩ := roundEven_bounds m (2 ^ (m.log2 - 52))
    dsimp only
    -- Rounding up may carry into a 54th bit; then all other bits are zero.
    split_ifs with hq
    · have hlt : 2 ^ 52 < 2 ^ 53 := by decide
      exact .inr ⟨Nat.le_refl _, hlt⟩
    · refine .inr ⟨Nat.le_trans hlo hle, ?_⟩
      show roundEven m (2 ^ (m.log2 - 52)) < 2 ^ 53
      have hne : roundEven m (2 ^ (m.log2 - 52)) ≠ 2 ^ 53 := hq
      omega

/-- The value of a normal number that is not zero lies between two powers of two. -/
theorem value_bounds {a : Binary64} (h : 2 ^ 52 ≤ a.significand ∧ a.significand < 2 ^ 53) :
    (2 : ℚ) ^ (a.exponent + 52) ≤ a.value ∧ a.value < 2 ^ (a.exponent + 53) := by
  have hpos : (0 : ℚ) < 2 ^ a.exponent := zpow_pos two_pos _
  have hlo : (2 ^ 52 : ℚ) ≤ a.significand := by exact_mod_cast h.1
  have hhi : (a.significand : ℚ) < 2 ^ 53 := by exact_mod_cast h.2
  rw [zpow_add₀ two_ne_zero, zpow_add₀ two_ne_zero, value, mul_comm (a.significand : ℚ)]
  exact ⟨mul_le_mul_of_nonneg_left hlo hpos.le, mul_lt_mul_of_pos_left hhi hpos⟩

/-- Normal numbers of one value have one exponent. -/
theorem exponent_le_of_value_le {a b : Binary64}
    (ha : 2 ^ 52 ≤ a.significand ∧ a.significand < 2 ^ 53)
    (hb : 2 ^ 52 ≤ b.significand ∧ b.significand < 2 ^ 53) (h : a.value ≤ b.value) :
    a.exponent ≤ b.exponent := by
  have hpow : (2 : ℚ) ^ (a.exponent + 52) < 2 ^ (b.exponent + 53) :=
    ((value_bounds ha).1.trans h).trans_lt (value_bounds hb).2
  rw [zpow_lt_zpow_iff_right₀ one_lt_two] at hpow
  omega

theorem value_pos {a : Binary64} (h : 2 ^ 52 ≤ a.significand ∧ a.significand < 2 ^ 53) :
    0 < a.value :=
  (zpow_pos two_pos _).trans_le (value_bounds h).1

theorem value_zero : zero.value = 0 := by
  rw [value, zero]
  simp

/-- Normal numbers of the same value are the same number. -/
theorem eq_of_value_eq {a b : Binary64} (ha : a.IsNormal) (hb : b.IsNormal)
    (h : a.value = b.value) : a = b := by
  rcases ha with rfl | ha <;> rcases hb with rfl | hb
  · rfl
  · have hpos := value_pos hb
    rw [← h, value_zero] at hpos
    exact absurd hpos (lt_irrefl _)
  · have hpos := value_pos ha
    rw [h, value_zero] at hpos
    exact absurd hpos (lt_irrefl _)
  · have he : a.exponent = b.exponent :=
      le_antisymm (exponent_le_of_value_le ha hb h.le) (exponent_le_of_value_le hb ha h.ge)
    have hpos : (0 : ℚ) < 2 ^ b.exponent := zpow_pos two_pos _
    rw [value, value, he] at h
    have hs : a.significand = b.significand := by exact_mod_cast mul_right_cancel₀ hpos.ne' h
    cases a
    cases b
    congr

end Binary64

end DocSite.Number
