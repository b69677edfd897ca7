import DocSite.Proofs.Number.Nearest
import DocSite.Proofs.Related.ScoreOrder

/-!
# Documents of equal exact scores

Documents whose exact scores are equal need not have the same rounded score.

* `scoreOf_eq_nearest`: where the number of shared tags is a multiple of five, the factor has no
  rounding error, so the score is the exact one, rounded once.
* `scoreOf_eq_of_weight_eq`: hence for two such numbers, and for equal numbers or no common word,
  equal weights have equal scores.
* `abs_sub_scoreOf_le`: in general the scores of equal weights are apart by rounding errors only.
* `rank_of_equal_weights` says where a ranking puts such documents, and `rank_swaps_equal_weights`
  shows two that are swapped.
-/

namespace DocSite

open Number (Binary64)
open Number.Binary64 (unitRoundoff)

/-! ### Multiples of five tags -/

/-- A tenth of a multiple of five is a number of halves, and the product with the rounded tenth is
above it by less than rounding takes back. -/
theorem value_tenth_mul_ofNat {k : ℕ} (h : 5 * k < 2 ^ 53) :
    (Binary64.tenth.mul (.ofNat (5 * k))).value = k / 2 := by
  have hk : k.log2 ≤ 52 := by
    rcases Nat.eq_zero_or_pos k with rfl | hpos
    · decide
    · exact Nat.lt_succ_iff.mp ((Nat.log2_lt hpos.ne').mpr (by omega))
  have hproduct : Binary64.tenth.value * (Binary64.ofNat (5 * k)).value =
      (k * 2 ^ 55 + 2 * k : ℕ) * 2 ^ (-56 : ℤ) := by
    rw [Binary64.value_tenth, Binary64.value_ofNat h]
    push_cast
    ring
  rw [Binary64.mul_eq_nearest hproduct, Binary64.value_nearest_of_excess hk (by omega)]
  push_cast
  ring

/-- The factor of a multiple of five is exact. -/
theorem value_factor_five_mul {k : ℕ} (h : 5 * k < 2 ^ 53) :
    (factor (5 * k)).value = (2 + k) / 2 := by
  have hsum : (Binary64.ofNat 1).value + (Binary64.tenth.mul (.ofNat (5 * k))).value =
      (2 + k : ℕ) * 2 ^ (-1 : ℤ) := by
    rw [value_tenth_mul_ofNat h, Binary64.value_ofNat (by decide)]
    push_cast
    ring
  have hlog : (2 + k).log2 ≤ 52 := Nat.lt_succ_iff.mp ((Nat.log2_lt (by omega)).mpr (by omega))
  rw [factor, Binary64.add_eq_nearest hsum, Binary64.value_nearest_of_le hlog]
  push_cast
  ring

/-- Numbers of words and tags for which only the last step of a score is rounded. -/
structure IsRoundedOnce (common shared : ℕ) : Prop where
  common_lt : common < 2 ^ 53
  shared_lt : shared < 2 ^ 53
  five_dvd : 5 ∣ shared

/-- Such a score is the exact one, rounded once. -/
theorem scoreOf_eq_nearest {common shared : ℕ} (h : IsRoundedOnce common shared) :
    scoreOf common shared = .nearest (weight common shared / 5) (-1) := by
  obtain ⟨hcommon, hshared, k, rfl⟩ := h
  have hweight : weight common (5 * k) / 5 = (2 + k) * common := by
    have hfive : weight common (5 * k) = 5 * ((2 + k) * common) := by
      rw [weight]
      ring
    rw [hfive, Nat.mul_div_cancel_left _ (by decide)]
  rcases eq_or_ne common 0 with rfl | hne
  · rw [scoreOf, if_pos rfl, hweight, Nat.mul_zero, Binary64.nearest, if_pos rfl]
  · have hproduct : (factor (5 * k)).value * (Binary64.ofNat common).value =
        ((2 + k) * common : ℕ) * 2 ^ (-1 : ℤ) := by
      rw [value_factor_five_mul hshared, Binary64.value_ofNat hcommon]
      push_cast
      ring
    rw [scoreOf_eq_mul hne, Binary64.mul_eq_nearest hproduct, hweight]

/-! ### Equal weights -/

/-- Counts whose scores are equal if their weights are. -/
def KeepsTie (common shared common' shared' : ℕ) : Prop :=
  common = 0 ∨ shared = shared' ∨ IsRoundedOnce common shared ∧ IsRoundedOnce common' shared'

theorem scoreOf_eq_of_weight_eq {common common' shared shared' : ℕ}
    (hweight : weight common shared = weight common' shared')
    (h : KeepsTie common shared common' shared') :
    scoreOf common shared = scoreOf common' shared' := by
  rcases h with rfl | rfl | ⟨honce, honce'⟩
  · -- Without a common word the weight is zero, so the other document has none either.
    have hzero : common' = 0 := by
      rw [weight, weight, Nat.mul_zero] at hweight
      exact (Nat.mul_eq_zero.mp hweight.symm).resolve_left (by omega)
    rw [hzero, scoreOf, scoreOf, if_pos rfl, if_pos rfl]
  · rw [Nat.eq_of_mul_eq_mul_left (by omega) hweight]
  · rw [scoreOf_eq_nearest honce, scoreOf_eq_nearest honce', hweight]

/-- Each of the scores takes six roundings. -/
theorem abs_sub_scoreOf_le {common common' shared shared' : ℕ}
    (hweight : weight common shared = weight common' shared') :
    |(scoreOf common shared).value - (scoreOf common' shared').value| ≤
      (weight common shared : ℚ) / 10 * (13 * unitRoundoff) := by
  have hwithin := isWithin_scoreOf common' shared'
  rw [← hweight] at hwithin
  have herror : (1 + unitRoundoff) ^ 6 - (1 - unitRoundoff) ^ 6 ≤ 13 * unitRoundoff := by
    norm_num [unitRoundoff]
  exact ((isWithin_scoreOf common shared).abs_sub_le hwithin).trans
    (mul_le_mul_of_nonneg_left herror (by positivity))

/-! ### Equal weights in a ranking -/

namespace Profile

/-- Ten times the exact score of a document for the query. -/
def weight (p : Profile) (d : Document) : ℕ :=
  (10 + p.sharedTags d) * p.commonWords d

/-- Whether rounding is known to keep a tie of two documents. -/
def KeepsTie (p : Profile) (c c' : Document) : Prop :=
  DocSite.KeepsTie (p.commonWords c) (p.sharedTags c) (p.commonWords c') (p.sharedTags c')

variable (p : Profile) {c c' : Document}

theorem score_eq_of_weight_eq (hweight : p.weight c = p.weight c') (h : p.KeepsTie c c') :
    p.score c = p.score c' := by
  rw [score, score]
  exact scoreOf_eq_of_weight_eq hweight h

theorem abs_sub_score_le (hweight : p.weight c = p.weight c') :
    |(p.score c).value - (p.score c').value| ≤ (p.weight c : ℚ) / 10 * (13 * unitRoundoff) := by
  rw [score, score]
  exact abs_sub_scoreOf_le hweight

theorem value_score_lt (hlt : p.weight c < p.weight c') (hbound : p.weight c < 2 ^ 50) :
    (p.score c).value < (p.score c').value := by
  rw [score, score]
  exact value_scoreOf_lt_of_weight_lt hlt hbound

end Profile

/-- A ranking puts the candidates in the order of their scores, and those of the same score in the
order of the collection. -/
theorem exists_entries_rank (query : Document) (docs : List Document) :
    ∃ entries : List (Document × ℕ), entries.Perm (candidates query docs) ∧
      rank query docs = entries.map (scored query) ∧
      entries.Pairwise fun a b =>
        ((Profile.ofDocument query).score b.1).value ≤
            ((Profile.ofDocument query).score a.1).value ∧
          ((Profile.ofDocument query).score a.1 = (Profile.ofDocument query).score b.1 →
            a.2 < b.2) := by
  obtain ⟨entries, hperm, hrank, hsorted⟩ :=
    exists_perm_map_eq_mergeSort Scored.le Scored.le_trans Scored.le_total (f := scored query)
      (pairwise_candidates query docs)
  refine ⟨entries, hperm, ?_, hsorted.imp fun {a b} h => ?_⟩
  · rw [rank_eq_mergeSort, hrank]
  · rw [← score_scored, ← score_scored, ← Binary64.le_iff]
    refine ⟨h.1, fun heq => h.2 ?_⟩
    rw [Scored.le, heq, Binary64.le_iff]

theorem related_eq_take_entries {query : Document} {docs : List Document}
    {entries : List (Document × ℕ)} (h : rank query docs = entries.map (scored query)) (n : ℕ) :
    related query docs n = (entries.map Prod.fst).take n := by
  rw [related, h, ← List.map_take, List.map_map, List.map_take]
  rfl

/-- **Where a ranking puts documents of equal exact scores.** Their scores are apart by no more than
13 parts in `2 ^ 53` of the exact one, and they are the same number where the documents have no word
in common with the query, where they have as many tags in common with it, or where both numbers of
tags are multiples of five and all counts are below `2 ^ 53`. A ranking goes by the rounded scores;
documents with the same score keep the order of the collection, also among the related ones. If the
weight of two such documents is below `2 ^ 50`, only documents of the same weight stand between
them. -/
theorem rank_of_equal_weights (query : Document) (docs : List Document) :
    let p := Profile.ofDocument query
    (∀ c c', p.weight c = p.weight c' →
      |(p.score c).value - (p.score c').value| ≤ (p.weight c : ℚ) / 10 * (13 * unitRoundoff) ∧
        (p.KeepsTie c c' → p.score c = p.score c')) ∧
      ∃ entries : List (Document × ℕ), entries.Perm (candidates query docs) ∧
        rank query docs = entries.map (scored query) ∧
        (∀ n, related query docs n = (entries.map Prod.fst).take n) ∧
        entries.Pairwise fun a b =>
          (p.score b.1).value ≤ (p.score a.1).value ∧
            (p.score a.1 = p.score b.1 → a.2 < b.2) ∧
            (p.weight a.1 < 2 ^ 50 → p.weight b.1 ≤ p.weight a.1) := by
  intro p
  refine ⟨fun c c' hweight =>
    ⟨p.abs_sub_score_le hweight, fun h => p.score_eq_of_weight_eq hweight h⟩, ?_⟩
  obtain ⟨entries, hperm, hrank, hsorted⟩ := exists_entries_rank query docs
  refine ⟨entries, hperm, hrank, related_eq_take_entries hrank, ?_⟩
  refine hsorted.imp fun {a b} h => ⟨h.1, h.2, fun hbound => ?_⟩
  refine Nat.le_of_not_lt fun hlt => ?_
  exact absurd h.1 (p.value_score_lt hlt hbound).not_ge

/-- Three words in common weigh 30, and so do two words with five tags. The scores are equal, and
the order is that of the collection. -/
theorem rank_of_equal_weights_of_five_tags :
    let query : Document :=
      { id := "q", slug := "q", title := "Q", tags := ["a", "b", "c", "d", "e"],
        bodyText := "alpha bravo charlie" }
    let c : Document := { id := "a", slug := "a", title := "A", bodyText := "alpha bravo charlie" }
    let c' : Document :=
      { id := "b", slug := "b", title := "B", tags := ["a", "b", "c", "d", "e"],
        bodyText := "alpha bravo" }
    let p := Profile.ofDocument query
    p.weight c = p.weight c' ∧ p.KeepsTie c c' ∧ p.score c = p.score c' ∧
      ∃ entries : List (Document × ℕ), entries.Perm [(c', 0), (c, 1)] ∧
        rank query [c', c] = entries.map (scored query) ∧
        entries.Pairwise fun a b => p.score a.1 = p.score b.1 → a.2 < b.2 := by
  intro query c c' p
  obtain ⟨hcommon, hshared, hcommon', hshared'⟩ :
      p.commonWords c = 3 ∧ p.sharedTags c = 0 ∧ p.commonWords c' = 2 ∧ p.sharedTags c' = 5 := by
    decide +kernel
  have hweight : p.weight c = p.weight c' := by
    rw [Profile.weight, Profile.weight, hcommon, hshared, hcommon', hshared']
  have htie : p.KeepsTie c c' := by
    rw [Profile.KeepsTie, hcommon, hshared, hcommon', hshared']
    exact .inr (.inr ⟨⟨by decide, by decide, by decide⟩, by decide, by decide, by decide⟩)
  obtain ⟨hscores, entries, hperm, hrank, -, hsorted⟩ := rank_of_equal_weights query [c', c]
  have hcandidates : candidates query [c', c] = [(c', 0), (c, 1)] := by decide
  rw [hcandidates] at hperm
  exact ⟨hweight, htie, (hscores c c' hweight).2 htie, entries, hperm, hrank,
    hsorted.imp fun h => h.2.1⟩

theorem mergeSort_pair {α : Type} (le : α → α → Bool) (a b : α) :
    [a, b].mergeSort le = if le a b then [a, b] else [b, a] := by
  simp [List.mergeSort, List.merge]

/-- Four words with two tags in common weigh 48, and so do three words with six tags. The second
score is one unit in the last place above the first, so the ranking puts the second document
first. -/
theorem rank_swaps_equal_weights :
    let query : Document :=
      { id := "q", slug := "q", title := "Q", tags := ["a", "b", "c", "d", "e", "f"],
        bodyText := "alpha bravo charlie delta" }
    let c : Document :=
      { id := "a", slug := "a", title := "A", tags := ["a", "b"],
        bodyText := "alpha bravo charlie delta" }
    let c' : Document :=
      { id := "b", slug := "b", title := "B", tags := ["a", "b", "c", "d", "e", "f"],
        bodyText := "alpha bravo charlie" }
    let p := Profile.ofDocument query
    (10 + p.sharedTags c) * p.commonWords c = (10 + p.sharedTags c') * p.commonWords c' ∧
      p.score c ≠ p.score c' ∧ related query [c, c'] 2 = [c', c] := by
  intro query c c' p
  obtain ⟨hcommon, hshared, hcommon', hshared'⟩ :
      p.commonWords c = 4 ∧ p.sharedTags c = 2 ∧ p.commonWords c' = 3 ∧ p.sharedTags c' = 6 := by
    decide +kernel
  have hscore : p.score c = scoreOf 4 2 := by rw [Profile.score, hcommon, hshared]
  have hscore' : p.score c' = scoreOf 3 6 := by rw [Profile.score, hcommon', hshared']
  have hle : (p.score c').le (p.score c) = false := by
    rw [hscore, hscore']
    decide +kernel
  have hcandidates : [c, c'].filter (!p.isQuery ·) = [c, c'] := by decide
  refine ⟨by rw [hcommon, hshared, hcommon', hshared'], ?_, ?_⟩
  · rw [hscore, hscore']
    decide +kernel
  · rw [related, rank, hcandidates, List.map_cons, List.map_singleton, mergeSort_pair, hle]
    rfl

end DocSite
