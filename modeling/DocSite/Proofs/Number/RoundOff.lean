import DocSite.Proofs.Number.Binary64
import Mathlib.Tactic.Positivity

/-!
# The error of rounded arithmetic

Rounding changes a number by at most one part in `2 ^ 53` (`IsRounded`).

* `isRounded_nearest`: so far the nearest number is from the exact one, and with it a rounded sum
  or product (`isRounded_add`, `isRounded_mul`).
* `value_ofNat`: a natural number below `2 ^ 53` is not changed at all.
* `IsWithin` counts roundings: the errors of a product's factors add up (`IsWithin.mul`), those of a
  sum's terms do not (`IsWithin.add`).
-/

namespace DocSite.Number

/-- The nearest integer is at most half a unit away from a quotient. -/
theorem roundEven_close (num : ℕ) {den : ℕ} (hden : 0 < den) :
    2 * num ≤ 2 * (roundEven num den * den) + den ∧
      2 * (roundEven num den * den) ≤ 2 * num + den := by
  have hdivide : num / den * den + num % den = num := Nat.div_add_mod' num den
  have hrest : num % den < den := Nat.mod_lt _ hden
  have hnext : (num / den + 1) * den = num / den * den + den := Nat.succ_mul _ _
  unfold roundEven
  dsimp only
  split_ifs with hbelow habove
  · omega
  · omega
  · -- A half may go either way.
    rcases Nat.mod_two_eq_zero_or_one (num / den) with heven | hodd
    · rw [heven, Nat.add_zero]
      omega
    · rw [hodd]
      omega

namespace Binary64

/-- The greatest relative error of one rounding. -/
def unitRoundoff : ℚ :=
  1 / 2 ^ 53

/-- A number differs from the exact one by no more than rounding may do. -/
structure IsRounded (exact x : ℚ) : Prop where
  le : x ≤ exact * (1 + unitRoundoff)
  ge : exact * (1 - unitRoundoff) ≤ x

theorem IsRounded.refl {x : ℚ} (hx : 0 ≤ x) : IsRounded x x := by
  have hsmall : 0 ≤ x * unitRoundoff := mul_nonneg hx (by norm_num [unitRoundoff])
  constructor <;> linarith

/-! ### Rounding -/

/-- A number of at most 53 bits is its own rounding. -/
theorem value_nearest_of_le {m : ℕ} (h : m.log2 ≤ 52) (e : ℤ) :
    (nearest m e).value = m * 2 ^ e := by
  unfold nearest
  split_ifs with hm
  · rw [hm, value_zero, Nat.cast_zero, zero_mul]
  · have hshift : (2 : ℚ) ^ (52 - m.log2) * 2 ^ (e - (52 - m.log2 : ℕ)) = 2 ^ e := by
      rw [← zpow_natCast, ← zpow_add₀ two_ne_zero]
      congr 1
      omega
    rw [← hshift, ← mul_assoc]
    show ((m * 2 ^ (52 - m.log2) : ℕ) : ℚ) * 2 ^ (e - (52 - m.log2 : ℕ)) = _
    push_cast
    rfl

/-- A longer number is rounded to a multiple of the last of 53 bits. -/
theorem value_nearest_of_lt {m : ℕ} (h : 52 < m.log2) (e : ℤ) :
    (nearest m e).value =
      (roundEven m (2 ^ (m.log2 - 52)) * 2 ^ (m.log2 - 52) : ℕ) * 2 ^ e := by
  have hm : m ≠ 0 := by
    rintro rfl
    exact absurd h (by decide)
  have hshift : (2 : ℚ) ^ (e + (m.log2 - 52 : ℕ)) = 2 ^ (m.log2 - 52) * 2 ^ e := by
    rw [add_comm, zpow_add₀ two_ne_zero, zpow_natCast]
  rw [nearest, if_neg hm, if_neg (Nat.not_le.mpr h)]
  dsimp only
  split_ifs with hcarry
  · -- The carry into a 54th bit doubles the last place.
    have hround : roundEven m (2 ^ (m.log2 - 52)) = 2 ^ 53 := hcarry
    rw [value, hround, zpow_add_one₀ two_ne_zero, hshift]
    push_cast
    ring
  · rw [value, hshift, ← mul_assoc]
    push_cast
    rfl

theorem isRounded_nearest (m : ℕ) (e : ℤ) : IsRounded (m * 2 ^ e) (nearest m e).value := by
  have hpos : (0 : ℚ) < 2 ^ e := zpow_pos two_pos _
  rcases Nat.lt_or_ge 52 m.log2 with hlog | hlog
  · have hm : m ≠ 0 := by
      rintro rfl
      exact absurd hlog (by decide)
    obtain ⟨hlo, hhi⟩ := roundEven_close m (Nat.two_pow_pos (m.log2 - 52))
    -- The last place is at most one part in `2 ^ 52` of the number.
    have hplace : 2 ^ (m.log2 - 52) * 2 ^ 52 ≤ m := by
      rw [← Nat.pow_add, Nat.sub_add_cancel hlog.le]
      exact Nat.log2_self_le hm
    rw [value_nearest_of_lt hlog]
    generalize roundEven m (2 ^ (m.log2 - 52)) * 2 ^ (m.log2 - 52) = r at hlo hhi ⊢
    generalize 2 ^ (m.log2 - 52) = place at hlo hhi hplace
    have hlo' : (2 * m : ℚ) ≤ 2 * r + place := by exact_mod_cast hlo
    have hhi' : (2 * r : ℚ) ≤ 2 * m + place := by exact_mod_cast hhi
    have hplace' : (place : ℚ) * 2 ^ 52 ≤ m := by exact_mod_cast hplace
    have hle : (r : ℚ) ≤ m * (1 + unitRoundoff) := by
      rw [unitRoundoff]
      linarith
    have hge : (m : ℚ) * (1 - unitRoundoff) ≤ r := by
      rw [unitRoundoff]
      linarith
    constructor
    · rw [mul_right_comm]
      exact mul_le_mul_of_nonneg_right hle hpos.le
    · rw [mul_right_comm]
      exact mul_le_mul_of_nonneg_right hge hpos.le
  · rw [value_nearest_of_le hlog]
    exact .refl (by positivity)

/-! ### Rounded operations -/

/-- A natural number of at most 53 bits is exact. -/
theorem value_ofNat {n : ℕ} (h : n < 2 ^ 53) : (ofNat n).value = n := by
  have hlog : n.log2 ≤ 52 := by
    rcases Nat.eq_zero_or_pos n with rfl | hpos
    · decide
    · exact Nat.lt_succ_iff.mp ((Nat.log2_lt hpos.ne').mpr h)
  rw [ofNat, value_nearest_of_le hlog, zpow_zero, mul_one]

/-- The exact sum of the aligned significands is the exact sum of the numbers. -/
theorem value_add_value (a b : Binary64) :
    a.value + b.value = ((align a b).1 + (align a b).2.1 : ℕ) * 2 ^ (align a b).2.2 := by
  obtain ⟨ha, hb⟩ := value_align a b
  rw [ha, hb, Nat.cast_add, add_mul]

/-- The exact product of the significands is the exact product of the numbers. -/
theorem value_mul_value (a b : Binary64) :
    a.value * b.value = (a.significand * b.significand : ℕ) * 2 ^ (a.exponent + b.exponent) := by
  rw [value, value, zpow_add₀ two_ne_zero]
  push_cast
  ring

theorem isRounded_add (a b : Binary64) : IsRounded (a.value + b.value) (a.add b).value := by
  rw [value_add_value]
  exact isRounded_nearest _ _

theorem isRounded_mul (a b : Binary64) : IsRounded (a.value * b.value) (a.mul b).value := by
  rw [value_mul_value]
  exact isRounded_nearest _ _

/-- The number nearest to a tenth is above it by one part in `2 ^ 54`. -/
theorem value_tenth : tenth.value = 1 / 10 * (1 + 1 / 2 ^ 54) := by
  rw [value, tenth]
  norm_num

/-! ### Several roundings -/

/-- A number differs from the exact one by no more than `k` roundings may do. -/
structure IsWithin (k : ℕ) (exact x : ℚ) : Prop where
  le : x ≤ exact * (1 + unitRoundoff) ^ k
  ge : exact * (1 - unitRoundoff) ^ k ≤ x

theorem unitRoundoff_nonneg : 0 ≤ unitRoundoff := by
  norm_num [unitRoundoff]

theorem unitRoundoff_le_one : unitRoundoff ≤ 1 := by
  norm_num [unitRoundoff]

theorem IsRounded.isWithin {exact x : ℚ} (h : IsRounded exact x) : IsWithin 1 exact x := by
  constructor
  · rw [pow_one]
    exact h.le
  · rw [pow_one]
    exact h.ge

namespace IsWithin

variable {k l : ℕ} {a b x y : ℚ}

theorem refl (x : ℚ) : IsWithin 0 x x := by
  constructor
  · rw [pow_zero, mul_one]
  · rw [pow_zero, mul_one]

/-- More roundings may do more. -/
theorem mono (ha : 0 ≤ a) (h : IsWithin k a x) (hkl : k ≤ l) : IsWithin l a x where
  le := by
    have hpow : (1 + unitRoundoff) ^ k ≤ (1 + unitRoundoff) ^ l :=
      pow_le_pow_right₀ (by linarith [unitRoundoff_nonneg]) hkl
    exact h.le.trans (mul_le_mul_of_nonneg_left hpow ha)
  ge := by
    have hpow : (1 - unitRoundoff) ^ l ≤ (1 - unitRoundoff) ^ k :=
      pow_le_pow_of_le_one (by linarith [unitRoundoff_le_one]) (by linarith [unitRoundoff_nonneg])
        hkl
    exact (mul_le_mul_of_nonneg_left hpow ha).trans h.ge

theorem nonneg (ha : 0 ≤ a) (h : IsWithin k a x) : 0 ≤ x := by
  have hpow : 0 ≤ (1 - unitRoundoff) ^ k := pow_nonneg (by linarith [unitRoundoff_le_one]) k
  exact (mul_nonneg ha hpow).trans h.ge

/-- One rounding more. -/
theorem round (h : IsWithin k a x) (hy : IsRounded x y) : IsWithin (k + 1) a y where
  le := by
    have hunit := unitRoundoff_nonneg
    calc y ≤ x * (1 + unitRoundoff) := hy.le
      _ ≤ a * (1 + unitRoundoff) ^ k * (1 + unitRoundoff) :=
        mul_le_mul_of_nonneg_right h.le (by linarith)
      _ = a * (1 + unitRoundoff) ^ (k + 1) := by rw [pow_succ, mul_assoc]
  ge := by
    have hunit := unitRoundoff_le_one
    calc a * (1 - unitRoundoff) ^ (k + 1) = a * (1 - unitRoundoff) ^ k * (1 - unitRoundoff) := by
          rw [pow_succ, mul_assoc]
      _ ≤ x * (1 - unitRoundoff) := mul_le_mul_of_nonneg_right h.ge (by linarith)
      _ ≤ y := hy.ge

/-- The error of an exact sum is that of its terms. -/
theorem add (hx : IsWithin k a x) (hy : IsWithin k b y) : IsWithin k (a + b) (x + y) where
  le := by
    rw [add_mul]
    exact add_le_add hx.le hy.le
  ge := by
    rw [add_mul]
    exact add_le_add hx.ge hy.ge

/-- The errors of an exact product's factors add up. -/
theorem mul (ha : 0 ≤ a) (hb : 0 ≤ b) (hx : IsWithin k a x) (hy : IsWithin l b y) :
    IsWithin (k + l) (a * b) (x * y) where
  le := by
    have hunit := unitRoundoff_nonneg
    calc x * y ≤ a * (1 + unitRoundoff) ^ k * (b * (1 + unitRoundoff) ^ l) :=
          mul_le_mul hx.le hy.le (hy.nonneg hb) (by positivity)
      _ = a * b * (1 + unitRoundoff) ^ (k + l) := by rw [pow_add, mul_mul_mul_comm]
  ge := by
    have hunit : 0 ≤ 1 - unitRoundoff := by linarith [unitRoundoff_le_one]
    calc a * b * (1 - unitRoundoff) ^ (k + l)
        = a * (1 - unitRoundoff) ^ k * (b * (1 - unitRoundoff) ^ l) := by
          rw [pow_add, mul_mul_mul_comm]
      _ ≤ x * y := mul_le_mul hx.ge hy.ge (by positivity) (hx.nonneg ha)

/-- Two numbers that take at most `k` roundings from the same one. -/
theorem abs_sub_le (hx : IsWithin k a x) (hy : IsWithin k a y) :
    |x - y| ≤ a * ((1 + unitRoundoff) ^ k - (1 - unitRoundoff) ^ k) := by
  obtain ⟨hx_le, hx_ge⟩ := hx
  obtain ⟨hy_le, hy_ge⟩ := hy
  rw [abs_sub_le_iff, mul_sub]
  constructor <;> linarith

end IsWithin

theorem isWithin_tenth : IsWithin 1 (1 / 10) tenth.value := by
  rw [value_tenth]
  constructor <;> norm_num [unitRoundoff]

theorem isWithin_ofNat (n : ℕ) : IsWithin 1 n (ofNat n).value := by
  have h := isRounded_nearest n 0
  rw [zpow_zero, mul_one] at h
  exact h.isWithin

end Binary64

end DocSite.Number
