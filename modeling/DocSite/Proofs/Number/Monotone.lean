import DocSite.Proofs.Number.Nearest

/-!
# Rounding keeps the order

* `value_nearest_mono`: of two numbers the greater one is never rounded to a lesser number. Numbers
  with the same first bit are rounded at the same place, and between numbers with different ones
  stands a power of two, which neither is rounded across (`value_nearest_bounds`).
* `value_ofNat_mono`, `value_add_mono` and `value_mul_mono` say so of the operations.
-/

namespace DocSite.Number

theorem roundEven_mono {m n : ℕ} (h : m ≤ n) (den : ℕ) : roundEven m den ≤ roundEven n den := by
  have hdiv : m / den ≤ n / den := Nat.div_le_div_right h
  rcases hdiv.lt_or_eq with hlt | heq
  · calc roundEven m den ≤ m / den + 1 := (roundEven_bounds m den).2
      _ ≤ n / den := hlt
      _ ≤ roundEven n den := (roundEven_bounds n den).1
  · -- The quotients are equal, so the remainders are in order.
    have hm : den * (m / den) + m % den = m := Nat.div_add_mod m den
    have hn : den * (n / den) + n % den = n := Nat.div_add_mod n den
    rw [← heq] at hn
    unfold roundEven
    dsimp only
    rw [← heq]
    split_ifs <;> omega

namespace Binary64

/-- A number is not rounded across a power of two. -/
theorem value_nearest_bounds {m : ℕ} (hm : m ≠ 0) (e : ℤ) :
    (2 : ℚ) ^ (m.log2 + e) ≤ (nearest m e).value ∧
      (nearest m e).value ≤ 2 ^ (m.log2 + 1 + e) := by
  have hpos : (0 : ℚ) < 2 ^ e := zpow_pos two_pos _
  have hlo : 2 ^ m.log2 ≤ m := Nat.log2_self_le hm
  have hhi : m ≤ 2 ^ (m.log2 + 1) := Nat.lt_log2_self.le
  -- All of the three numbers are multiples of `2 ^ e`.
  suffices h : ∃ r : ℕ, (nearest m e).value = r * 2 ^ e ∧ 2 ^ m.log2 ≤ r ∧ r ≤ 2 ^ (m.log2 + 1) by
    obtain ⟨r, hr, hlo, hhi⟩ := h
    have hlo' : (2 ^ m.log2 : ℚ) ≤ r := by exact_mod_cast hlo
    have hhi' : (r : ℚ) ≤ 2 ^ (m.log2 + 1) := by exact_mod_cast hhi
    rw [hr, zpow_add₀ two_ne_zero, zpow_add₀ two_ne_zero (_ + 1), zpow_natCast,
      ← Nat.cast_succ, zpow_natCast]
    exact ⟨mul_le_mul_of_nonneg_right hlo' hpos.le, mul_le_mul_of_nonneg_right hhi' hpos.le⟩
  rcases Nat.lt_or_ge 52 m.log2 with hlog | hlog
  · obtain ⟨i, hi⟩ : ∃ i, m.log2 = 52 + i := ⟨m.log2 - 52, by omega⟩
    have hone (k : ℕ) : roundEven (2 ^ k * 2 ^ i) (2 ^ i) = 2 ^ k := by
      simpa using roundEven_mul_add (2 ^ k) (r := 0) (Nat.two_pow_pos i)
    refine ⟨_, value_nearest_of_lt hlog e, ?_, ?_⟩
    · rw [hi, Nat.add_sub_cancel_left, Nat.pow_add]
      refine Nat.mul_le_mul_right _ ?_
      rw [← hone 52, ← Nat.pow_add, ← hi]
      exact roundEven_mono hlo _
    · rw [hi, Nat.add_sub_cancel_left, Nat.add_right_comm, Nat.pow_add]
      refine Nat.mul_le_mul_right _ ?_
      rw [← hone (52 + 1), ← Nat.pow_add, Nat.add_right_comm, ← hi]
      exact roundEven_mono hhi _
  · exact ⟨m, value_nearest_of_le hlog e, hlo, hhi⟩

/-- Multiples of one power of two are rounded to numbers in the same order. -/
theorem value_nearest_mono_left {m n : ℕ} (h : m ≤ n) (e : ℤ) :
    (nearest m e).value ≤ (nearest n e).value := by
  rcases Nat.eq_zero_or_pos m with rfl | hpos
  · rw [value_nearest_of_le (by decide), Nat.cast_zero, zero_mul]
    exact mul_nonneg (Nat.cast_nonneg _) (zpow_pos two_pos _).le
  have hm : m ≠ 0 := hpos.ne'
  have hn : n ≠ 0 := (hpos.trans_le h).ne'
  have hlog : m.log2 ≤ n.log2 := (Nat.le_log2 hn).mpr ((Nat.log2_self_le hm).trans h)
  rcases hlog.lt_or_eq with hlt | heq
  · calc (nearest m e).value ≤ 2 ^ (m.log2 + 1 + e) := (value_nearest_bounds hm e).2
      _ ≤ 2 ^ (n.log2 + e) := zpow_le_zpow_right₀ one_le_two (by omega)
      _ ≤ (nearest n e).value := (value_nearest_bounds hn e).1
  · have hpow : (0 : ℚ) < 2 ^ e := zpow_pos two_pos _
    rcases Nat.lt_or_ge 52 n.log2 with hlong | hshort
    · rw [value_nearest_of_lt (heq ▸ hlong), value_nearest_of_lt hlong, heq]
      refine mul_le_mul_of_nonneg_right (Nat.cast_le.mpr ?_) hpow.le
      exact Nat.mul_le_mul_right _ (roundEven_mono h _)
    · rw [value_nearest_of_le (heq.le.trans hshort), value_nearest_of_le hshort]
      exact mul_le_mul_of_nonneg_right (Nat.cast_le.mpr h) hpow.le

/-- Rounding keeps the order of the exact numbers. -/
theorem value_nearest_mono {m n : ℕ} {e f : ℤ} (h : (m * 2 ^ e : ℚ) ≤ n * 2 ^ f) :
    (nearest m e).value ≤ (nearest n f).value := by
  -- Both are multiples of the smaller one of the two powers.
  have hlower (k : ℕ) (g : ℤ) (hg : min e f ≤ g) :
      (k * 2 ^ g : ℚ) = (k * 2 ^ (g - min e f).toNat : ℕ) * 2 ^ min e f :=
    value_eq_of_le (a := ⟨k, g⟩) hg
  have hm := hlower m e (min_le_left _ _)
  have hn := hlower n f (min_le_right _ _)
  rw [nearest_eq_nearest hm, nearest_eq_nearest hn]
  rw [hm, hn, mul_le_mul_iff_of_pos_right (zpow_pos two_pos _), Nat.cast_le] at h
  exact value_nearest_mono_left h _

/-! ### Operations -/

theorem value_ofNat_mono {m n : ℕ} (h : m ≤ n) : (ofNat m).value ≤ (ofNat n).value :=
  value_nearest_mono_left h 0

variable {a a' b b' : Binary64}

theorem value_add_mono (ha : a.value ≤ a'.value) (hb : b.value ≤ b'.value) :
    (a.add b).value ≤ (a'.add b').value := by
  have h := add_le_add ha hb
  rw [value_add_value, value_add_value] at h
  exact value_nearest_mono h

theorem value_mul_mono (ha : a.value ≤ a'.value) (hb : b.value ≤ b'.value) :
    (a.mul b).value ≤ (a'.mul b').value := by
  have h := mul_le_mul ha hb b.value_nonneg a'.value_nonneg
  rw [value_mul_value, value_mul_value] at h
  exact value_nearest_mono h

end Binary64

end DocSite.Number
