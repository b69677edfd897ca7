import DocSite.Text.Digit
import Mathlib.Data.List.Basic
import Mathlib.Tactic.Common

/-!
# Decimal digits

The text of a natural number consists of digits (`isDigit_of_mem_toString`), which write the number
(`numberOf_toString`), and starts with a zero only if it is that of zero (`head?_toString`).
-/

namespace DocSite.Text

/-! ### The longest run of a class -/

variable {p : Char → Bool} {s rest : List Char}

theorem takeWhile_append_of_head? (hs : ∀ c ∈ s, p c) (hrest : ∀ c ∈ rest.head?, ¬ p c) :
    (s ++ rest).takeWhile p = s := by
  rw [List.takeWhile_append_of_pos hs]
  cases rest with
  | nil => rw [List.takeWhile_nil, List.append_nil]
  | cons c rest => rw [List.takeWhile_cons_of_neg (hrest c rfl), List.append_nil]

/-! ### The digits of a number -/

theorem toList_toString (n : ℕ) : (toString n).toList = Nat.toDigits 10 n :=
  Nat.toList_repr

theorem toString_ne_nil (n : ℕ) : (toString n).toList ≠ [] := by
  rw [toList_toString]
  exact Nat.toDigits_ne_nil

theorem isDigit_of_mem_toString {n : ℕ} {c : Char} (hc : c ∈ (toString n).toList) :
    c.isDigit := by
  rw [toList_toString] at hc
  exact Nat.isDigit_of_mem_toDigits (by decide) (Nat.le_refl _) hc

theorem numberOf_eq_ofDigitChars {ds : List Char} (h : ∀ c ∈ ds, c.isDigit) :
    numberOf 10 ds = Nat.ofDigitChars 10 ds 0 := by
  rw [numberOf, Nat.ofDigitChars]
  refine List.foldl_ext _ _ _ fun n c hc => ?_
  rw [digitValue, if_pos (h c hc)]
  rfl

/-- Zeros before the digits of a number do not change it. -/
theorem numberOf_replicate_append_toString (k n : ℕ) :
    numberOf 10 (List.replicate k '0' ++ (toString n).toList) = n := by
  have hdigits : ∀ c ∈ List.replicate k '0' ++ (toString n).toList, c.isDigit := by
    intro c hc
    rcases List.mem_append.mp hc with hc | hc
    · rw [List.eq_of_mem_replicate hc]
      rfl
    · exact isDigit_of_mem_toString hc
  rw [numberOf_eq_ofDigitChars hdigits, Nat.ofDigitChars_append, Nat.ofDigitChars_replicate_zero,
    Nat.mul_zero, toList_toString, Nat.ofDigitChars_ten_toDigits]

/-- The digits of a number write it. -/
theorem numberOf_toString (n : ℕ) : numberOf 10 (toString n).toList = n :=
  numberOf_replicate_append_toString 0 n

/-- Only zero has a leading zero. -/
theorem head?_toString {n : ℕ} (h : (toString n).toList.head? = some '0') : n = 0 := by
  rw [toList_toString] at h
  induction n using Nat.strongRecOn with
  | ind n ih =>
    rcases Nat.lt_or_ge n 10 with hn | hn
    · rw [Nat.toDigits_of_lt_base hn] at h
      have hdigit : ∀ m < 10, Nat.digitChar m = '0' → m = 0 := by decide
      exact hdigit n hn (Option.some.inj h)
    · -- The leading digit is that of the number without its last digit.
      have hpos : 0 < n / 10 := Nat.div_pos hn (by decide)
      rw [← Nat.div_add_mod n 10, ← Nat.toDigits_append_toDigits (by decide) hpos
        (Nat.mod_lt _ (by decide)), List.head?_append_of_ne_nil _ Nat.toDigits_ne_nil] at h
      exact absurd (ih _ (Nat.div_lt_self (by omega) (by decide)) h) (Nat.ne_of_gt hpos)

end DocSite.Text
