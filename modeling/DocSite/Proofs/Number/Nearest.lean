import DocSite.Proofs.Number.RoundOff

/-!
# Rounding is a function of the exact number

* `nearest_eq_nearest`: a number is rounded in the same way however it is written as `m * 2 ^ e`. So
  a sum or a product is known once its exact value is (`add_eq_nearest`, `mul_eq_nearest`).
* `value_nearest_of_excess`: rounding takes a number of 53 bits back from one that is slightly above
  it.
-/

namespace DocSite.Number

/-- A common factor of both numbers changes nothing. -/
theorem roundEven_mul_right (num den : ℕ) {k : ℕ} (hk : 0 < k) :
    roundEven (num * k) (den * k) = roundEven num den := by
  have hlt (a b : ℕ) : a * k < b * k ↔ a < b := Nat.mul_lt_mul_right hk
  unfold roundEven
  rw [Nat.mul_div_mul_right _ _ hk, Nat.mul_mod_mul_right]
  simp only [← Nat.mul_assoc, hlt]

/-- Less than a half is dropped. -/
theorem roundEven_mul_add (n : ℕ) {den r : ℕ} (h : 2 * r < den) :
    roundEven (n * den + r) den = n := by
  have hr : r < den := by omega
  have hpos : 0 < den := by omega
  rw [roundEven, Nat.mul_add_mod', Nat.mod_eq_of_lt hr]
  rw [if_pos h, Nat.add_comm, Nat.add_mul_div_right _ _ hpos, Nat.div_eq_of_lt hr, Nat.zero_add]

namespace Binary64

/-- `value_nearest_of_lt` also holds for a number of 53 bits, of which nothing is cut off. -/
theorem value_nearest_of_ge {m : ℕ} (h : 52 ≤ m.log2) (e : ℤ) :
    (nearest m e).value =
      (roundEven m (2 ^ (m.log2 - 52)) * 2 ^ (m.log2 - 52) : ℕ) * 2 ^ e := by
  rcases h.lt_or_eq with hlt | heq
  · exact value_nearest_of_lt hlt e
  · have hround : roundEven m 1 = m := by
      simpa using roundEven_mul_add m (r := 0) Nat.one_pos
    rw [value_nearest_of_le heq.ge, ← heq, Nat.sub_self, Nat.pow_zero, hround, Nat.mul_one]

theorem nearest_mul_two (m : ℕ) (e : ℤ) : nearest (m * 2) (e - 1) = nearest m e := by
  rcases Nat.eq_zero_or_pos m with rfl | hpos
  · rfl
  have hlog : (m * 2).log2 = m.log2 + 1 := by
    rw [Nat.mul_comm]
    exact Nat.log2_two_mul hpos.ne'
  have hplace : (2 : ℚ) ^ e = 2 * 2 ^ (e - 1) := by
    rw [← zpow_one_add₀ two_ne_zero, add_sub_cancel]
  refine eq_of_value_eq (isNormal_nearest _ _) (isNormal_nearest _ _) ?_
  rcases Nat.lt_or_ge m.log2 52 with hlt | hge
  · rw [value_nearest_of_le hlt.le, value_nearest_of_le (by omega), hplace]
    push_cast
    ring
  · have hshift : (m * 2).log2 - 52 = m.log2 - 52 + 1 := by omega
    rw [value_nearest_of_ge hge, value_nearest_of_ge (by omega), hshift, Nat.pow_succ,
      roundEven_mul_right _ _ Nat.two_pos, hplace]
    push_cast
    ring

theorem nearest_mul_two_pow (m d : ℕ) (e : ℤ) : nearest (m * 2 ^ d) (e - d) = nearest m e := by
  induction d with
  | zero => rw [Nat.pow_zero, Nat.mul_one, Nat.cast_zero, sub_zero]
  | succ d ih =>
    rw [Nat.pow_succ, ← Nat.mul_assoc, Nat.cast_succ, ← sub_sub, nearest_mul_two, ih]

/-- Rounding depends on the number only, not on how it is written. -/
theorem nearest_eq_nearest {m n : ℕ} {e f : ℤ} (h : (m * 2 ^ e : ℚ) = n * 2 ^ f) :
    nearest m e = nearest n f := by
  wlog hle : f ≤ e generalizing m n e f
  · exact (this h.symm (le_of_not_ge hle)).symm
  obtain ⟨d, rfl⟩ := Int.le.dest hle
  have hpos : (2 : ℚ) ^ f ≠ 0 := (zpow_pos two_pos _).ne'
  have hn : n = m * 2 ^ d := by
    rw [zpow_add₀ two_ne_zero, zpow_natCast, mul_comm ((2 : ℚ) ^ f), ← mul_assoc] at h
    exact_mod_cast (mul_right_cancel₀ hpos h).symm
  rw [hn, ← nearest_mul_two_pow m d, add_sub_cancel_right]

theorem add_eq_nearest {a b : Binary64} {m : ℕ} {e : ℤ} (h : a.value + b.value = m * 2 ^ e) :
    a.add b = nearest m e := by
  rw [value_add_value] at h
  exact nearest_eq_nearest h

theorem mul_eq_nearest {a b : Binary64} {m : ℕ} {e : ℤ} (h : a.value * b.value = m * 2 ^ e) :
    a.mul b = nearest m e := by
  rw [value_mul_value] at h
  exact nearest_eq_nearest h

/-- An excess of at most a quarter of the last of 53 bits is dropped. -/
theorem value_nearest_of_excess {n j r : ℕ} (hn : n.log2 ≤ 52) (hr : 2 ^ 54 * r ≤ n * 2 ^ j)
    (e : ℤ) :
    (nearest (n * 2 ^ j + r) e).value = (n * 2 ^ j : ℕ) * 2 ^ e := by
  rcases Nat.eq_zero_or_pos n with rfl | hpos
  · obtain rfl : r = 0 := by omega
    rw [Nat.zero_mul, value_nearest_of_le (by decide)]
  have hlo : 2 ^ (n.log2 + j) ≤ n * 2 ^ j := by
    rw [Nat.pow_add]
    exact Nat.mul_le_mul_right _ (Nat.log2_self_le hpos.ne')
  have hhi : n * 2 ^ j + 2 ^ j ≤ 2 ^ (n.log2 + j + 1) := by
    rw [← Nat.succ_mul, Nat.add_right_comm, Nat.pow_add]
    exact Nat.mul_le_mul_right _ Nat.lt_log2_self
  have hplace : 0 < 2 ^ j := Nat.two_pow_pos j
  have hr_lt : r < 2 ^ j := by
    have hn_lt : n < 2 ^ 53 := (Nat.log2_lt hpos.ne').mp (Nat.lt_succ_of_le hn)
    have hprod : n * 2 ^ j ≤ 2 ^ 53 * 2 ^ j := Nat.mul_le_mul_right _ hn_lt.le
    omega
  -- So the excess does not carry into another bit.
  have hlog : (n * 2 ^ j + r).log2 = n.log2 + j := by
    rw [Nat.log2_eq_iff (by omega)]
    omega
  rcases Nat.lt_or_ge 52 (n.log2 + j) with hlt | hle
  · obtain ⟨i, hi⟩ : ∃ i, n.log2 + j = 52 + i := ⟨n.log2 + j - 52, by omega⟩
    have hsplit : n * 2 ^ j = n * 2 ^ (j - i) * 2 ^ i := by
      rw [Nat.mul_assoc, ← Nat.pow_add, Nat.sub_add_cancel (by omega)]
    have hhalf : 2 * r < 2 ^ i := by
      rw [hi, Nat.add_right_comm, Nat.pow_add] at hhi
      omega
    rw [value_nearest_of_lt (by omega), hlog, hi, Nat.add_sub_cancel_left, hsplit,
      roundEven_mul_add _ hhalf]
  · have hsmall : 2 ^ (n.log2 + j + 1) ≤ 2 ^ 53 := Nat.pow_le_pow_right Nat.two_pos (by omega)
    have hr_zero : r = 0 := by omega
    rw [hr_zero, Nat.add_zero] at hlog ⊢
    rw [value_nearest_of_le (by omega)]

end Binary64

end DocSite.Number
