import DocSite.Proofs.Number.RoundOff
import DocSite.Proofs.Related

/-!
# Rounded scores keep the order of the exact ones

The exact score of `common` shared words and `shared` shared tags is a tenth of `weight common
shared`, a natural number.

* `scoreOf_bounds` bounds the error of a score: it takes four roundings, that of a tenth being half
  as large as the others may be.
* `isWithin_scoreOf` does so for counts of any size, for six roundings.
* `value_scoreOf_lt`: weights that differ and are below `2 ^ 50` have scores in the same order.
* `index_rank_lt`: a ranking puts documents with a higher score before those with a lower one.
* `rank_of_weights` puts the last two together.
-/

namespace DocSite

open Number (Binary64)
open Number.Binary64 (unitRoundoff)

/-! ### Exact scores -/

/-- Ten times the exact score of `common` shared words and `shared` shared tags. -/
def weight (common shared : ℕ) : ℕ :=
  (10 + shared) * common

/-- Both counts of a weight are bounded by it. -/
theorem lt_of_weight_lt {common shared bound : ℕ} (hcommon : common ≠ 0)
    (h : weight common shared < bound) : common < bound ∧ shared < bound := by
  have hpos : 1 ≤ common := Nat.pos_of_ne_zero hcommon
  constructor
  · calc common ≤ (10 + shared) * common := Nat.le_mul_of_pos_left _ (by omega)
      _ < bound := h
  · calc shared ≤ 10 + shared := Nat.le_add_left _ _
      _ ≤ (10 + shared) * common := Nat.le_mul_of_pos_right _ hpos
      _ < bound := h

/-! ### The error of a score -/

/-- The factor by which tags raise a score, as it is rounded. -/
def factor (shared : ℕ) : Binary64 :=
  (Binary64.ofNat 1).add (Binary64.tenth.mul (.ofNat shared))

theorem scoreOf_eq_mul {common : ℕ} (hcommon : common ≠ 0) (shared : ℕ) :
    scoreOf common shared = (factor shared).mul (.ofNat common) := by
  rw [scoreOf, if_neg hcommon, factor]

/-- The rounded factor lies between the exact one after two roundings down and after three
roundings up, of which that of a tenth is half a rounding. -/
theorem factor_bounds {shared : ℕ} (h : shared < 2 ^ 53) :
    (1 + shared / 10 : ℚ) * (1 - unitRoundoff) ^ 2 ≤ (factor shared).value ∧
      (factor shared).value ≤
        (1 + shared / 10 : ℚ) * ((1 + unitRoundoff / 2) * (1 + unitRoundoff) ^ 2) := by
  have hone : (Binary64.ofNat 1).value = 1 := by
    rw [Binary64.value_ofNat (by decide), Nat.cast_one]
  have hshared : (0 : ℚ) ≤ shared := Nat.cast_nonneg _
  have hproduct := Binary64.isRounded_mul .tenth (.ofNat shared)
  have hsum := Binary64.isRounded_add (.ofNat 1) (Binary64.tenth.mul (.ofNat shared))
  rw [Binary64.value_ofNat h, Binary64.value_tenth] at hproduct
  rw [hone] at hsum
  obtain ⟨hproduct_le, hproduct_ge⟩ := hproduct
  obtain ⟨hsum_le, hsum_ge⟩ := hsum
  rw [factor]
  generalize (Binary64.tenth.mul (.ofNat shared)).value = product at *
  rw [unitRoundoff] at *
  constructor
  · calc (1 + shared / 10 : ℚ) * (1 - 1 / 2 ^ 53) ^ 2
        ≤ (1 + 1 / 10 * (1 + 1 / 2 ^ 54) * shared * (1 - 1 / 2 ^ 53)) * (1 - 1 / 2 ^ 53) := by
          nlinarith
      _ ≤ (1 + product) * (1 - 1 / 2 ^ 53) := by linarith
      _ ≤ _ := hsum_ge
  · calc _ ≤ (1 + product) * (1 + 1 / 2 ^ 53) := hsum_le
      _ ≤ (1 + 1 / 10 * (1 + 1 / 2 ^ 54) * shared * (1 + 1 / 2 ^ 53)) * (1 + 1 / 2 ^ 53) := by
          linarith
      _ ≤ (1 + shared / 10 : ℚ) * ((1 + 1 / 2 ^ 53 / 2) * (1 + 1 / 2 ^ 53) ^ 2) := by
          nlinarith

/-- A score is below the exact one by at most three roundings, and above it by less than four. -/
theorem scoreOf_bounds {common shared : ℕ} (h : weight common shared < 2 ^ 53) :
    (weight common shared : ℚ) / 10 * (1 - 3 * unitRoundoff) ≤ (scoreOf common shared).value ∧
      (scoreOf common shared).value ≤
        (weight common shared : ℚ) / 10 * (1 + 4 * unitRoundoff) := by
  rcases eq_or_ne common 0 with rfl | hcommon
  · rw [weight, scoreOf, if_pos rfl, Binary64.value_zero, Nat.mul_zero]
    norm_num
  · obtain ⟨hcommon_lt, hshared_lt⟩ := lt_of_weight_lt hcommon h
    obtain ⟨hfactor_ge, hfactor_le⟩ := factor_bounds hshared_lt
    obtain ⟨hscore_le, hscore_ge⟩ := Binary64.isRounded_mul (factor shared) (.ofNat common)
    rw [Binary64.value_ofNat hcommon_lt] at hscore_le hscore_ge
    rw [scoreOf_eq_mul hcommon]
    have hweight : (weight common shared : ℚ) / 10 = (1 + shared / 10) * common := by
      rw [weight]
      push_cast
      ring
    have hnonneg : (0 : ℚ) ≤ (1 + shared / 10) * common := by positivity
    have hdown : 1 - 3 * unitRoundoff ≤ (1 - unitRoundoff) ^ 2 * (1 - unitRoundoff) := by
      norm_num [unitRoundoff]
    have hup : (1 + unitRoundoff / 2) * (1 + unitRoundoff) ^ 2 * (1 + unitRoundoff) ≤
        1 + 4 * unitRoundoff := by
      norm_num [unitRoundoff]
    have hunit : 0 ≤ 1 - unitRoundoff ∧ 0 ≤ 1 + unitRoundoff := by
      norm_num [unitRoundoff]
    rw [hweight]
    constructor
    · calc (1 + shared / 10 : ℚ) * common * (1 - 3 * unitRoundoff)
          ≤ (1 + shared / 10) * common * ((1 - unitRoundoff) ^ 2 * (1 - unitRoundoff)) :=
            mul_le_mul_of_nonneg_left hdown hnonneg
        _ = (1 + shared / 10) * (1 - unitRoundoff) ^ 2 * common * (1 - unitRoundoff) := by ring
        _ ≤ (factor shared).value * common * (1 - unitRoundoff) :=
            mul_le_mul_of_nonneg_right
              (mul_le_mul_of_nonneg_right hfactor_ge (Nat.cast_nonneg _)) hunit.1
        _ ≤ _ := hscore_ge
    · calc ((factor shared).mul (.ofNat common)).value
          ≤ (factor shared).value * common * (1 + unitRoundoff) := hscore_le
        _ ≤ (1 + shared / 10) * ((1 + unitRoundoff / 2) * (1 + unitRoundoff) ^ 2) * common *
              (1 + unitRoundoff) :=
            mul_le_mul_of_nonneg_right
              (mul_le_mul_of_nonneg_right hfactor_le (Nat.cast_nonneg _)) hunit.2
        _ = (1 + shared / 10) * common *
              ((1 + unitRoundoff / 2) * (1 + unitRoundoff) ^ 2 * (1 + unitRoundoff)) := by ring
        _ ≤ (1 + shared / 10) * common * (1 + 4 * unitRoundoff) :=
            mul_le_mul_of_nonneg_left hup hnonneg

/-- A factor takes four roundings: of the tenth, of the number of tags, of their product and of the
sum. -/
theorem isWithin_factor (shared : ℕ) :
    Binary64.IsWithin 4 (1 + shared / 10) (factor shared).value := by
  have hone : Binary64.IsWithin 3 1 (Binary64.ofNat 1).value := by
    rw [Binary64.value_ofNat (by decide), Nat.cast_one]
    exact (Binary64.IsWithin.refl 1).mono zero_le_one (Nat.zero_le 3)
  have hproduct : Binary64.IsWithin 3 (shared / 10) (Binary64.tenth.mul (.ofNat shared)).value := by
    rw [← one_div_mul_eq_div]
    exact (Binary64.isWithin_tenth.mul (by norm_num) (Nat.cast_nonneg _)
      (Binary64.isWithin_ofNat shared)).round (Binary64.isRounded_mul _ _)
  exact (hone.add hproduct).round (Binary64.isRounded_add _ _)

/-- A score takes two roundings more, of the number of words and of the product. -/
theorem isWithin_scoreOf (common shared : ℕ) :
    Binary64.IsWithin 6 ((weight common shared : ℚ) / 10) (scoreOf common shared).value := by
  rcases eq_or_ne common 0 with rfl | hcommon
  · rw [weight, scoreOf, if_pos rfl, Binary64.value_zero, Nat.mul_zero, Nat.cast_zero, zero_div]
    exact (Binary64.IsWithin.refl 0).mono le_rfl (Nat.zero_le 6)
  · have hweight : (weight common shared : ℚ) / 10 = (1 + shared / 10) * common := by
      rw [weight]
      push_cast
      ring
    rw [scoreOf_eq_mul hcommon, hweight]
    exact ((isWithin_factor shared).mul (by positivity) (Nat.cast_nonneg _)
      (Binary64.isWithin_ofNat common)).round (Binary64.isRounded_mul _ _)

/-- A weight below `2 ^ 50` has a lower score than every greater weight. -/
theorem value_scoreOf_lt_of_weight_lt {common common' shared shared' : ℕ}
    (hlt : weight common shared < weight common' shared')
    (hbound : weight common shared < 2 ^ 50) :
    (scoreOf common shared).value < (scoreOf common' shared').value := by
  have hlow : weight common shared < 2 ^ 53 := by omega
  obtain ⟨-, hle⟩ := scoreOf_bounds hlow
  have hsmall : (weight common shared : ℚ) < 2 ^ 50 := by exact_mod_cast hbound
  refine lt_of_le_of_lt hle ?_
  rcases Nat.lt_or_ge (weight common' shared') (2 ^ 53) with hhigh | hhigh
  · obtain ⟨hge, -⟩ := scoreOf_bounds hhigh
    refine lt_of_lt_of_le ?_ hge
    generalize weight common shared = n at *
    generalize weight common' shared' = n' at *
    -- The weights are apart by one, and the errors together by seven parts in `2 ^ 53`.
    have hstep : (n : ℚ) + 1 ≤ n' := by exact_mod_cast hlt
    rw [unitRoundoff]
    linarith
  · -- The greater weight is more than twice the other, and keeps more than half of its score.
    have hlarge : (2 ^ 53 : ℚ) ≤ weight common' shared' := by exact_mod_cast hhigh
    have hkept : (1 / 2 : ℚ) ≤ (1 - unitRoundoff) ^ 6 := by norm_num [unitRoundoff]
    refine lt_of_lt_of_le ?_ (isWithin_scoreOf common' shared').ge
    calc (weight common shared : ℚ) / 10 * (1 + 4 * unitRoundoff)
        < 2 ^ 53 / 10 * (1 / 2) := by
          rw [unitRoundoff]
          linarith
      _ ≤ (weight common' shared' : ℚ) / 10 * (1 - unitRoundoff) ^ 6 :=
          mul_le_mul (by linarith) hkept (by norm_num) (by positivity)

/-- Weights below `2 ^ 50` that differ have scores that differ in the same way. -/
theorem value_scoreOf_lt {common common' shared shared' : ℕ}
    (hlt : weight common shared < weight common' shared')
    (hbound : weight common' shared' < 2 ^ 50) :
    (scoreOf common shared).value < (scoreOf common' shared').value :=
  value_scoreOf_lt_of_weight_lt hlt (hlt.trans hbound)

/-! ### Scores in a ranking -/

theorem pairwise_rank (query : Document) (docs : List Document) :
    (rank query docs).Pairwise fun a b => b.score.value ≤ a.score.value := by
  rw [rank_eq_mergeSort]
  exact (List.pairwise_mergeSort Scored.le_trans Scored.le_total _).imp
    fun h => (Binary64.le_iff _ _).mp h

theorem mem_rank_iff {query : Document} {docs : List Document} {s : Scored} :
    s ∈ rank query docs ↔
      ∃ d ∈ docs, d.id ≠ query.id ∧ ⟨d, (Profile.ofDocument query).score d⟩ = s := by
  have hcandidate (d : Document) :
      d ∈ docs.filter (!(Profile.ofDocument query).isQuery ·) ↔ d ∈ docs ∧ d.id ≠ query.id := by
    rw [List.mem_filter]
    simp [Profile.isQuery, Profile.ofDocument]
  rw [rank, List.mem_mergeSort, List.mem_map]
  simp only [hcandidate, and_assoc]

theorem score_of_mem_rank {query : Document} {docs : List Document} {s : Scored}
    (h : s ∈ rank query docs) : s.score = (Profile.ofDocument query).score s.document := by
  obtain ⟨_, -, -, rfl⟩ := mem_rank_iff.mp h
  dsimp only

/-- A document with a higher score stands before one with a lower score. -/
theorem index_rank_lt {query : Document} {docs : List Document} {i j : ℕ} {a b : Scored}
    (ha : (rank query docs)[i]? = some a) (hb : (rank query docs)[j]? = some b)
    (h : a.score.value < b.score.value) : j < i := by
  by_contra hle
  rcases Nat.lt_or_eq_of_le (Nat.not_lt.mp hle) with hlt | rfl
  · obtain ⟨hi, rfl⟩ := List.getElem?_eq_some_iff.mp ha
    obtain ⟨hj, rfl⟩ := List.getElem?_eq_some_iff.mp hb
    have hsorted := List.pairwise_iff_getElem.mp (pairwise_rank query docs) i j hi hj hlt
    exact absurd h (not_lt.mpr hsorted)
  · obtain rfl : a = b := Option.some.inj (ha.symm.trans hb)
    exact lt_irrefl _ h

/-- **Rounding never swaps or merges scores.** Of two documents with `t` and `t'` tags and `w` and
`w'` words in common with a query, where `(10 + t) * w` is less than `(10 + t') * w'` and this is
below `2 ^ 50`, the first one has the lower score, though scores are rounded four times. A ranking
of any collection that holds both of them, under other ids than that of the query, has both, and
the second one everywhere before the first. -/
theorem rank_of_weights (query : Document) {c c' : Document} :
    let profile := Profile.ofDocument query
    (10 + profile.sharedTags c) * profile.commonWords c <
        (10 + profile.sharedTags c') * profile.commonWords c' →
      (10 + profile.sharedTags c') * profile.commonWords c' < 2 ^ 50 →
      (profile.score c).value < (profile.score c').value ∧
        ∀ docs, c ∈ docs → c' ∈ docs → c.id ≠ query.id → c'.id ≠ query.id →
          ⟨c, profile.score c⟩ ∈ rank query docs ∧ ⟨c', profile.score c'⟩ ∈ rank query docs ∧
            ∀ (i j : ℕ) (a b : Scored), (rank query docs)[i]? = some a →
              (rank query docs)[j]? = some b →
              a.document = c → b.document = c' → j < i := by
  intro profile hlt hbound
  have hscore : (profile.score c).value < (profile.score c').value := by
    rw [Profile.score, Profile.score]
    exact value_scoreOf_lt hlt hbound
  refine ⟨hscore, fun docs hc hc' hid hid' =>
    ⟨mem_rank_iff.mpr ⟨c, hc, hid, rfl⟩, mem_rank_iff.mpr ⟨c', hc', hid', rfl⟩, ?_⟩⟩
  rintro i j a b ha hb rfl rfl
  refine index_rank_lt ha hb ?_
  rw [score_of_mem_rank (List.mem_of_getElem? ha), score_of_mem_rank (List.mem_of_getElem? hb)]
  exact hscore

/-- Three words in common weigh 30, and two words with six tags that the query has 32. -/
theorem rank_of_weights_of_tags :
    let query : Document :=
      { id := "q", slug := "q", title := "Scaling Postgres clusters",
        tags := ["database", "scaling"], bodyText := "replication replica tuning" }
    let c : Document := { id := "a", slug := "a", title := "Scaling postgres clusters" }
    let c' : Document :=
      { id := "b", slug := "b", title := "Postgres replication",
        tags := ["scaling", "database", "scaling", "database", "scaling", "database"] }
    let profile := Profile.ofDocument query
    (10 + profile.sharedTags c) * profile.commonWords c <
        (10 + profile.sharedTags c') * profile.commonWords c' ∧
      (10 + profile.sharedTags c') * profile.commonWords c' < 2 ^ 50 ∧
      (profile.score c).value < (profile.score c').value ∧
      ∀ (i j : ℕ) (a b : Scored), (rank query [c, c'])[i]? = some a →
        (rank query [c, c'])[j]? = some b → a.document = c → b.document = c' → j < i := by
  intro query c c' profile
  obtain ⟨hcommon, hshared, hcommon', hshared'⟩ :
      profile.commonWords c = 3 ∧ profile.sharedTags c = 0 ∧
        profile.commonWords c' = 2 ∧ profile.sharedTags c' = 6 := by decide +kernel
  have hlt : (10 + profile.sharedTags c) * profile.commonWords c <
      (10 + profile.sharedTags c') * profile.commonWords c' := by
    rw [hcommon, hshared, hcommon', hshared']
    decide
  have hbound : (10 + profile.sharedTags c') * profile.commonWords c' < 2 ^ 50 := by
    rw [hcommon', hshared']
    decide
  obtain ⟨hscore, hrank⟩ := rank_of_weights query hlt hbound
  obtain ⟨-, -, hbefore⟩ := hrank [c, c'] (by simp) (by simp) (by decide) (by decide)
  exact ⟨hlt, hbound, hscore, hbefore⟩

end DocSite
