import DocSite.Proofs.Number.Binary64
import Mathlib.Order.Compare

/-!
# Numbers and their 64 bits

The exponents of `Binary64` are not bounded, those of the interchange format are.

* `IsFinite`: the numbers that have a place in the format. A number between two of them is one too
  (`IsFinite.of_between`), so a computation stays in the format if its least and its greatest
  results do.
* `valueOfWord?` reads a word of 64 bits as the format says, and finds the value of a finite number
  in its word (`valueOfWord?_word`).
* `totalCompare` is the total order of all words. Words of finite numbers are in the order of their
  values (`totalCompare_word`).
-/

namespace DocSite.Number.Binary64

/-! ### Finite numbers -/

/-- Zero, or a number of 53 bits whose exponent is one of the format's. Where rounding gives such a
number, the bounds of the format make no difference: there is no overflow, and no underflow. -/
def IsFinite (a : Binary64) : Prop :=
  a = zero ∨
    (2 ^ 52 ≤ a.significand ∧ a.significand < 2 ^ 53) ∧ -1074 ≤ a.exponent ∧ a.exponent ≤ 971

instance : DecidablePred IsFinite :=
  fun _ => inferInstanceAs (Decidable (_ ∨ _))

variable {a b : Binary64}

theorem IsFinite.isNormal (ha : a.IsFinite) : a.IsNormal :=
  ha.imp_right And.left

/-- The exponents between those of two finite numbers are of the format too. -/
theorem IsFinite.of_between (lo hi : Binary64)
    (hends : lo.IsFinite ∧ lo ≠ zero ∧ hi.IsFinite ∧ hi ≠ zero) (ha : a.IsNormal)
    (hle : lo.value ≤ a.value) (hge : a.value ≤ hi.value) : a.IsFinite := by
  obtain ⟨hlo, hlo_ne, hhi, hhi_ne⟩ := hends
  obtain ⟨hlo_bits, hlo_exponent, -⟩ := hlo.resolve_left hlo_ne
  obtain ⟨hhi_bits, -, hhi_exponent⟩ := hhi.resolve_left hhi_ne
  have ha_ne : a ≠ zero := by
    rintro rfl
    rw [value_zero] at hle
    exact absurd hle (value_pos hlo_bits).not_ge
  have ha_bits := ha.resolve_left ha_ne
  refine .inr ⟨ha_bits, ?_, ?_⟩
  · exact hlo_exponent.trans (exponent_le_of_value_le hlo_bits ha_bits hle)
  · exact (exponent_le_of_value_le ha_bits hhi_bits hge).trans hhi_exponent

/-! ### Words -/

/-- The word of a number in the interchange format. -/
def word (a : Binary64) : BitVec 64 :=
  .ofNat 64 a.bits

/-- The number that a word stands for: one bit of sign, eleven of the exponent and 52 of the
significand, whose first bit is not written. No number has all bits of the exponent set. -/
def valueOfWord? (w : BitVec 64) : Option ℚ :=
  let sign : ℕ := w.toNat / 2 ^ 63
  let exponent : ℕ := w.toNat / 2 ^ 52 % 2 ^ 11
  let fraction : ℕ := w.toNat % 2 ^ 52
  if exponent = 2 ^ 11 - 1 then none
  else if exponent = 0 then some ((-1) ^ sign * (fraction * 2 ^ (-1074 : ℤ)))
  else some ((-1) ^ sign * ((2 ^ 52 + fraction : ℕ) * 2 ^ (exponent - 1075 : ℤ)))

/-- The bits of a number other than zero: its exponent from 1 on, and its significand without the
first bit. -/
theorem exists_bits_eq (ha : a.IsFinite) (hne : a ≠ zero) :
    ∃ exponent fraction : ℕ, 1 ≤ exponent ∧ exponent ≤ 2046 ∧ fraction < 2 ^ 52 ∧
      a.exponent = exponent - 1075 ∧ a.significand = 2 ^ 52 + fraction ∧
      a.bits = exponent * 2 ^ 52 + fraction := by
  obtain ⟨⟨hlo, hhi⟩, hmin, hmax⟩ := ha.resolve_left hne
  have hbits : a.bits = (a.exponent + 1075).toNat * 2 ^ 52 + (a.significand - 2 ^ 52) :=
    if_neg (Nat.two_pow_pos 52 |>.trans_le hlo).ne'
  exact ⟨(a.exponent + 1075).toNat, a.significand - 2 ^ 52, by omega, by omega, by omega, by omega,
    by omega, hbits⟩

theorem bits_lt (ha : a.IsFinite) : a.bits < 2047 * 2 ^ 52 := by
  by_cases hne : a = zero
  · rw [hne]
    decide
  · obtain ⟨exponent, fraction, -, hmax, hfraction, -, -, hbits⟩ := exists_bits_eq ha hne
    omega

theorem toNat_word (ha : a.IsFinite) : a.word.toNat = a.bits := by
  have hlt := bits_lt ha
  rw [word, BitVec.toNat_ofNat, Nat.mod_eq_of_lt (by omega)]

/-- **The word of a finite number stands for its value.** -/
theorem valueOfWord?_word (ha : a.IsFinite) : valueOfWord? a.word = some a.value := by
  rw [valueOfWord?, toNat_word ha]
  by_cases hne : a = zero
  · subst hne
    rw [value_zero]
    have hzero : zero.bits = 0 := rfl
    simp [hzero]
  · obtain ⟨exponent, fraction, hmin, hmax, hfraction, hexponent, hsignificand, hbits⟩ :=
      exists_bits_eq ha hne
    have hsign : a.bits / 2 ^ 63 = 0 := by omega
    have hfield : a.bits / 2 ^ 52 % 2 ^ 11 = exponent := by omega
    have hrest : a.bits % 2 ^ 52 = fraction := by omega
    rw [hsign, hfield, hrest, if_neg (by omega), if_neg (by omega), pow_zero, one_mul, value,
      hsignificand, hexponent]

theorem word_eq_zero_iff (ha : a.IsFinite) : a.word = 0 ↔ a = zero := by
  constructor
  · intro h
    by_contra hne
    obtain ⟨exponent, fraction, hmin, -, -, -, -, hbits⟩ := exists_bits_eq ha hne
    have hzero : a.bits = 0 := by
      rw [← toNat_word ha, h]
      rfl
    omega
  · rintro rfl
    rfl

/-! ### The order of words -/

/-- Finite numbers are in the order of their bits. -/
theorem bits_lt_bits (ha : a.IsFinite) (hb : b.IsFinite) (h : a.value < b.value) :
    a.bits < b.bits := by
  have hb_ne : b ≠ zero := by
    rintro rfl
    rw [value_zero] at h
    exact absurd h a.value_nonneg.not_gt
  obtain ⟨eb, fb, hb_min, -, hfb, hb_exponent, hb_significand, hb_bits⟩ := exists_bits_eq hb hb_ne
  by_cases ha_ne : a = zero
  · subst ha_ne
    have hzero : zero.bits = 0 := rfl
    omega
  · obtain ⟨ea, fa, -, -, hfa, ha_exponent, ha_significand, ha_bits⟩ := exists_bits_eq ha ha_ne
    have hexponent : a.exponent ≤ b.exponent :=
      exponent_le_of_value_le (ha.resolve_left ha_ne).1 (hb.resolve_left hb_ne).1 h.le
    rcases hexponent.lt_or_eq with hlt | heq
    · omega
    · -- At one exponent the significands are in the order of the values.
      rw [value, value, heq, mul_lt_mul_iff_of_pos_right (zpow_pos two_pos _), Nat.cast_lt] at h
      omega

/-- A word as a signed number. Where the sign is set, all other bits are inverted. -/
def totalKey (w : BitVec 64) : ℤ :=
  (w ^^^ (w.sshiftRight 63 >>> 1)).toInt

/-- The total order of words, also of those that stand for no number. -/
def totalCompare (v w : BitVec 64) : Ordering :=
  compare (totalKey v) (totalKey w)

/-- Without a sign a word is its own key. -/
theorem totalKey_of_lt {w : BitVec 64} (h : w.toNat < 2 ^ 63) : totalKey w = w.toNat := by
  have hmsb : w.msb = false := by
    rw [BitVec.msb_eq_false_iff_two_mul_lt]
    omega
  have hshift : w.sshiftRight 63 = 0 := by
    apply BitVec.eq_of_toNat_eq
    rw [BitVec.sshiftRight_eq_of_msb_false hmsb, BitVec.toNat_ushiftRight,
      Nat.shiftRight_eq_div_pow, Nat.div_eq_of_lt h]
    rfl
  have hkey : w ^^^ ((0 : BitVec 64) >>> 1) = w := by simp
  rw [totalKey, hshift, hkey, BitVec.toInt_eq_toNat_of_lt (by omega)]

/-- **The total order of words is the order of numbers**, as far as finite numbers go. -/
theorem totalCompare_word (ha : a.IsFinite) (hb : b.IsFinite) :
    totalCompare a.word b.word = compare a.value b.value := by
  have hkey {x : Binary64} (hx : x.IsFinite) : totalKey x.word = x.bits := by
    have hlt := bits_lt hx
    rw [totalKey_of_lt (by rw [toNat_word hx]; omega), toNat_word hx]
  rw [totalCompare, hkey ha, hkey hb]
  rcases lt_trichotomy a.value b.value with hlt | heq | hgt
  · have hbits := bits_lt_bits ha hb hlt
    rw [compare_lt_iff_lt.mpr hlt, compare_lt_iff_lt]
    exact_mod_cast hbits
  · obtain rfl : a = b := eq_of_value_eq ha.isNormal hb.isNormal heq
    rw [compare_eq_iff_eq.mpr rfl, compare_eq_iff_eq.mpr rfl]
  · have hbits := bits_lt_bits hb ha hgt
    rw [compare_gt_iff_gt.mpr hgt, compare_gt_iff_gt]
    exact_mod_cast hbits

end DocSite.Number.Binary64
