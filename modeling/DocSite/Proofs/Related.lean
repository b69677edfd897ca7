import DocSite.Proofs.Number.Binary64
import DocSite.Proofs.StableSort
import DocSite.Related

/-!
# The ranking of related documents

* `isNormal_scoreOf`: scores are normal numbers, so neither of two scores is below the other only
  if they are the same number.
* `rank_eq_mergeSort`: a ranking sorts the scores of the candidates, which are the documents whose
  id is not that of the query, each with its place in the collection (`candidates`).
* `rank_related` says what every ranking holds and in which order, and that the related documents
  are the start of it.
-/

namespace DocSite

open Number (Binary64)

/-! ### Scores -/

/-- Scores are zero or have exactly 53 bits. -/
theorem isNormal_scoreOf (common shared : Nat) : (scoreOf common shared).IsNormal := by
  unfold scoreOf
  split_ifs
  · exact .inl rfl
  · exact Binary64.isNormal_nearest _ _

namespace Scored

/-- The order of a ranking: the higher score stands first. -/
def le (a b : Scored) : Bool :=
  b.score.le a.score

theorem le_trans (a b c : Scored) (hab : a.le b) (hbc : b.le c) : a.le c :=
  Binary64.le_trans _ _ _ hbc hab

theorem le_total (a b : Scored) : a.le b || b.le a :=
  Binary64.le_total _ _

/-- Of two scores in order the first is the higher, or they are equal and may also be swapped. -/
theorem value_lt_or_eq_of_le {a b : Scored} (ha : a.score.IsNormal) (hb : b.score.IsNormal)
    (h : a.le b) : b.score.value < a.score.value ∨ a.score = b.score ∧ b.le a := by
  have hle : b.score.value ≤ a.score.value := (Binary64.le_iff _ _).mp h
  rcases hle.lt_or_eq with hlt | heq
  · exact .inl hlt
  · exact .inr ⟨Binary64.eq_of_value_eq ha hb heq.symm, (Binary64.le_iff _ _).mpr heq.ge⟩

end Scored

/-! ### Candidates -/

/-- The documents that a query may be related to, each with its place in the collection. -/
def candidates (query : Document) (docs : List Document) : List (Document × ℕ) :=
  docs.zipIdx.filter fun p => p.1.id ≠ query.id

/-- A candidate with its score. -/
def scored (query : Document) (p : Document × ℕ) : Scored :=
  ⟨p.1, (Profile.ofDocument query).score p.1⟩

theorem score_scored (query : Document) (a : Document × ℕ) :
    (scored query a).score = (Profile.ofDocument query).score a.1 := by
  rw [scored]

theorem length_candidates (query : Document) (docs : List Document) :
    (candidates query docs).length = docs.countP fun d => d.id ≠ query.id := by
  rw [candidates, ← List.countP_eq_length_filter]
  conv_rhs => rw [← List.zipIdx_map_fst 0 docs, List.countP_map]
  rfl

theorem pairwise_candidates (query : Document) (docs : List Document) :
    (candidates query docs).Pairwise fun p q => p.2 < q.2 :=
  (pairwise_zipIdx docs).filter _

/-- A ranking sorts the scores of the candidates. -/
theorem rank_eq_mergeSort (query : Document) (docs : List Document) :
    rank query docs = ((candidates query docs).map (scored query)).mergeSort Scored.le := by
  -- Places are forgotten again once the documents are paired with their scores.
  have hdocs : docs.filter (!(Profile.ofDocument query).isQuery ·) =
      (candidates query docs).map Prod.fst := by
    conv_lhs => rw [← List.zipIdx_map_fst 0 docs, List.filter_map]
    rw [candidates]
    congr 1
    refine List.filter_congr fun p _ => ?_
    rw [Function.comp_apply, Profile.isQuery, Profile.ofDocument, decide_not]
    rfl
  rw [rank, hdocs, List.map_map]
  rfl

theorem length_rank (query : Document) (docs : List Document) :
    (rank query docs).length = docs.countP fun d => d.id ≠ query.id := by
  rw [rank_eq_mergeSort, List.length_mergeSort, List.length_map, length_candidates]

/-! ### Rankings -/

/-- The related documents are the start of the ranked ones, up to their number. -/
theorem related_eq_take (query : Document) (docs : List Document) (n : ℕ) :
    related query docs n = ((rank query docs).map (·.document)).take
      (min n (docs.countP fun d => d.id ≠ query.id)) := by
  rw [related, List.map_take, ← length_rank, ← List.length_map (·.document), ← List.take_take,
    List.take_length]

theorem related_prefix (query : Document) (docs : List Document) {m n : ℕ} (h : m ≤ n) :
    related query docs m <+: related query docs n := by
  rw [related, related, ← Nat.min_eq_left h, ← List.take_take, List.map_take]
  exact List.take_prefix _ _

/-- **What is ranked, and in which order**: for every query and every collection, documents and ids
may be repeated, the ranking holds each document whose id is not that of the query once for each of
its places, with its score for the query, and nothing else. Of two of them the first has the higher
score, or the scores are equal and it stands earlier in the collection. The `n` related documents
are the first `n` of them, or all when there are fewer. -/
theorem rank_related (query : Document) (docs : List Document) :
    (∃ entries : List (Document × ℕ), entries.Perm (candidates query docs) ∧
      rank query docs = entries.map (scored query) ∧
      entries.Pairwise fun p q =>
        (scored query q).score.value < (scored query p).score.value ∨
          (scored query p).score = (scored query q).score ∧ p.2 < q.2) ∧
      (∀ n, related query docs n = ((rank query docs).map (·.document)).take
        (min n (docs.countP fun d => d.id ≠ query.id))) ∧
      (∀ n, (related query docs n).length = min n (docs.countP fun d => d.id ≠ query.id)) ∧
      ∀ m n, m ≤ n → related query docs m <+: related query docs n := by
  refine ⟨?_, related_eq_take query docs, fun n => ?_, fun m n => related_prefix query docs⟩
  · obtain ⟨entries, hperm, hrank, hsorted⟩ :=
      exists_perm_map_eq_mergeSort Scored.le Scored.le_trans Scored.le_total (f := scored query)
        (pairwise_candidates query docs)
    refine ⟨entries, hperm, ?_, hsorted.imp fun {p q} hpq => ?_⟩
    · rw [rank_eq_mergeSort, hrank]
    · obtain ⟨hle, hplace⟩ := hpq
      rcases Scored.value_lt_or_eq_of_le (isNormal_scoreOf _ _) (isNormal_scoreOf _ _) hle with
        hlt | ⟨heq, hge⟩
      · exact .inl hlt
      · exact .inr ⟨heq, hplace hge⟩
  · rw [related, List.length_map, List.length_take, length_rank]

end DocSite
