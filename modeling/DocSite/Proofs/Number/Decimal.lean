import DocSite.Number.Decimal
import DocSite.Proofs.Json.Reading

/-!
# Decimal texts are JSON numbers

The shortest decimal of a number that is not zero has a digit that is not zero
(`digits_shortest_ne_zero`), so that its text starts with no needless zero and, having a point or an
exponent, is a number of the JSON grammar (`isDecimal_shortestText`).
-/

namespace DocSite.Number

open Json (IsDecimal IsWhole IsFraction IsExponent)

/-! ### Digits that are not zero -/

theorem Decimal.digits_trim_ne_zero {d : Decimal} (h : d.digits ≠ 0) (fuel : ℕ) :
    (d.trim fuel).digits ≠ 0 := by
  induction fuel generalizing d with
  | zero => exact h
  | succ fuel ih =>
    rw [trim]
    split_ifs with hzero
    · have hdiv : d.digits / 10 ≠ 0 := by omega
      exact ih hdiv
    · exact h

/-- Zero does not round to any other number. -/
theorem Binary64.digits_ne_zero_of_rounds {a : Binary64} (ha : a.significand ≠ 0) {d : Decimal}
    (h : a.rounds d.ratio) : d.digits ≠ 0 := by
  intro hzero
  have hpow (b n : ℕ) (hb : 0 < b) : 0 < Nat.pow b n := Nat.pow_pos hb
  have hleft (lo : ℕ) (hlo : 0 < lo) :
      0 < lo * Nat.pow 2 (a.exponent - 2).toNat * Nat.pow 10 (-d.exponent).toNat :=
    Nat.mul_pos (Nat.mul_pos hlo (hpow 2 _ (by decide))) (hpow 10 _ (by decide))
  have hlo : 0 < if a.significand = Nat.pow 2 52 then 4 * a.significand - 1
      else 4 * a.significand - 2 := by
    split_ifs <;> omega
  simp only [rounds, Decimal.ratio, hzero, Nat.zero_mul] at h
  generalize (if a.significand = Nat.pow 2 52 then 4 * a.significand - 1
      else 4 * a.significand - 2) = lo at hlo h
  have hpos := hleft lo hlo
  split_ifs at h
  all_goals
    simp only [Bool.and_eq_true, decide_eq_true_eq] at h
    omega

theorem Binary64.digits_shortest_ne_zero {a : Binary64} (ha : a.significand ≠ 0) :
    a.shortest.digits ≠ 0 := by
  rw [shortest]
  -- The first candidate, or the significand itself where there is none.
  have hcandidates (size : Int) : ∀ d ∈ (List.range' 1 17).flatMap (a.candidates size),
      d.digits ≠ 0 := by
    intro d hd
    obtain ⟨n, -, hn⟩ := List.mem_flatMap.mp hd
    exact digits_ne_zero_of_rounds ha (List.mem_filter.mp hn).2
  split
  rename_i num den hratio
  dsimp only
  generalize hds : (List.range' 1 17).flatMap (a.candidates (magnitude num den 800)) = ds
  cases ds with
  | nil => exact ha
  | cons d ds =>
    refine hcandidates (magnitude num den 800) d ?_
    rw [hds]
    exact List.mem_cons_self

/-! ### The parts of a text -/

/-- Digits after a first one that is not zero. -/
theorem isWhole_of_head {d : Char} {ds : List Char} (hd : d ≠ '0')
    (hds : ∀ c ∈ d :: ds, c.isDigit) :
    IsWhole (d :: ds) :=
  ⟨List.cons_ne_nil d ds, hds, fun hzero => absurd (Option.some.inj hzero) hd⟩

theorem isExponent_toString (n : Int) : IsExponent ('e' :: (toString n).toList) := by
  have htext := Json.integerText_eq n
  rw [Json.integerText] at htext
  rw [htext]
  split_ifs
  · exact .minus (Text.toString_ne_nil _) fun c => Text.isDigit_of_mem_toString
  · exact .plus (Text.toString_ne_nil _) fun c => Text.isDigit_of_mem_toString

theorem isFraction_append {xs ys : List Char} (hne : xs ++ ys ≠ []) (hxs : ∀ c ∈ xs, c.isDigit)
    (hys : ∀ c ∈ ys, c.isDigit) : IsFraction ('.' :: (xs ++ ys)) :=
  .point hne fun c hc => (List.mem_append.mp hc).elim (hxs c) (hys c)

theorem isDigit_of_mem_zeros {n : ℕ} {c : Char} (hc : c ∈ List.replicate n '0') : c.isDigit := by
  rw [List.eq_of_mem_replicate hc]
  rfl

/-- The text of a decimal that is not zero is a number with a point or an exponent. -/
theorem isDecimal_text {d : Decimal} (h : d.digits ≠ 0) : IsDecimal (String.ofList d.text) := by
  have hdigits := Decimal.digits_trim_ne_zero h 400
  rw [Decimal.text]
  generalize d.trim 400 = d at hdigits ⊢
  obtain ⟨c, ds, hds⟩ := List.exists_cons_of_ne_nil (Text.toString_ne_nil d.digits)
  have hc : c ≠ '0' := by
    rintro rfl
    exact hdigits (Text.head?_toString (by rw [hds]; rfl))
  have hall : ∀ b ∈ c :: ds, b.isDigit := by
    rw [← hds]
    exact fun b => Text.isDigit_of_mem_toString
  have hfrac : IsFraction (if ds.isEmpty then [] else '.' :: ds) := by
    split_ifs with hempty
    · exact .nil
    · exact .point (fun hnil => hempty (List.isEmpty_iff.mpr hnil))
        fun b hb => hall b (List.mem_cons_of_mem c hb)
  simp only [hds, List.drop_one, List.tail_cons, List.length_cons]
  generalize (if ds.isEmpty then [] else '.' :: ds) = frac at hfrac ⊢
  split_ifs with hplaces hpoint hsmall
  · -- An integer with zeros after its digits.
    refine ⟨[], c :: (ds ++ List.replicate d.exponent.toNat '0'), ['.', '0'], [], .inl rfl,
      isWhole_of_head hc fun b hb => ?_, .point (List.cons_ne_nil _ _) (List.all_eq_true.mp rfl),
      .nil, by simp, by simp⟩
    rw [← List.cons_append] at hb
    exact (List.mem_append.mp hb).elim (hall b) isDigit_of_mem_zeros
  · -- A point between the digits.
    obtain ⟨k, hk⟩ : ∃ k, ((ds.length + 1 : ℕ) + d.exponent).toNat = k + 1 :=
      Nat.exists_eq_add_one_of_ne_zero (by omega)
    have hlt : k < ds.length := by omega
    rw [hk]
    refine ⟨[], c :: ds.take k, '.' :: ds.drop k, [], .inl rfl,
      isWhole_of_head hc fun b hb => hall b ?_, .point ?_ fun b hb => hall b ?_, .nil, by simp,
      by simp⟩
    · rw [← List.take_succ_cons] at hb
      exact List.mem_of_mem_take hb
    · rw [Ne, List.drop_eq_nil_iff]
      omega
    · exact List.mem_cons_of_mem c (List.mem_of_mem_drop hb)
  · -- Zeros between the point and the digits.
    generalize (-((ds.length + 1 : ℕ) + d.exponent)).toNat = k
    exact ⟨[], ['0'], '.' :: (List.replicate k '0' ++ c :: ds), [], .inl rfl,
      ⟨by decide, List.all_eq_true.mp rfl, fun _ => by decide⟩,
      isFraction_append (by simp) (fun b => isDigit_of_mem_zeros) hall, .nil, by simp, by simp⟩
  · -- One digit, the others after a point if there are any, and an exponent.
    refine ⟨[], [c], frac, _, .inl rfl, isWhole_of_head hc fun b hb => hall b ?_, hfrac,
      isExponent_toString ((ds.length + 1 : ℕ) + d.exponent - 1), by simp, by simp⟩
    rw [List.mem_singleton.mp hb]
    exact List.mem_cons_self

theorem isDecimal_shortestText (a : Binary64) : IsDecimal a.shortestText := by
  rw [Binary64.shortestText]
  split_ifs with hzero
  · exact ⟨[], ['0'], ['.', '0'], [], .inl rfl,
      ⟨by decide, List.all_eq_true.mp rfl, fun _ => by decide⟩,
      .point (by decide) (List.all_eq_true.mp rfl), .nil, by simp, rfl⟩
  · exact isDecimal_text (Binary64.digits_shortest_ne_zero hzero)

end DocSite.Number
