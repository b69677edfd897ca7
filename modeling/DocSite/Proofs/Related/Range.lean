import DocSite.Proofs.Distinct
import DocSite.Proofs.Number.Interchange
import DocSite.Proofs.Number.Monotone
import DocSite.Proofs.Related.ScoreOrder

/-!
# Which scores there are, and what raises them

* `value_scoreOf_mono`: more common words and more shared tags never lower a score, though it is
  rounded at every step.
* `one_le_value_scoreOf`: so a common word gives a score of at least one, and a score is zero only
  without (`scoreOf_eq_zero_iff`).
* `isFinite_of_mem_scoreSteps`: all numbers on the way to a score have a place in the interchange
  format, as long as the counts are machine words.
* `rank_eq_mergeSort_totalCompare`: hence a ranking may as well go by the words of the scores.
* `score_by_overlap` puts these together.
-/

namespace DocSite

open Number (Binary64)
open Number.Binary64 (totalCompare valueOfWord?)

/-! ### Scores of counts -/

section Counts

variable {common common' shared shared' : ℕ}

theorem value_factor_mono (h : shared ≤ shared') : (factor shared).value ≤ (factor shared').value :=
  Binary64.value_add_mono le_rfl (Binary64.value_mul_mono le_rfl (Binary64.value_ofNat_mono h))

theorem scoreOf_zero (shared : ℕ) : scoreOf 0 shared = .zero :=
  if_pos rfl

/-- More common words and more shared tags never lower a score. -/
theorem value_scoreOf_mono (hcommon : common ≤ common') (hshared : shared ≤ shared') :
    (scoreOf common shared).value ≤ (scoreOf common' shared').value := by
  rcases Nat.eq_zero_or_pos common with rfl | hpos
  · rw [scoreOf_zero, Binary64.value_zero]
    exact Binary64.value_nonneg _
  · rw [scoreOf_eq_mul hpos.ne', scoreOf_eq_mul (hpos.trans_le hcommon).ne']
    exact Binary64.value_mul_mono (value_factor_mono hshared) (Binary64.value_ofNat_mono hcommon)

theorem one_le_value_scoreOf (h : common ≠ 0) (shared : ℕ) :
    1 ≤ (scoreOf common shared).value := by
  have hone : scoreOf 1 0 = .ofNat 1 := by decide +kernel
  calc (1 : ℚ) = (scoreOf 1 0).value := by
        rw [hone, Binary64.value_ofNat (by decide), Nat.cast_one]
    _ ≤ (scoreOf common shared).value :=
        value_scoreOf_mono (Nat.one_le_iff_ne_zero.mpr h) (Nat.zero_le _)

theorem scoreOf_eq_zero_iff : scoreOf common shared = .zero ↔ common = 0 := by
  constructor
  · intro h
    by_contra hne
    have hone := one_le_value_scoreOf hne shared
    rw [h, Binary64.value_zero] at hone
    exact absurd hone (by norm_num)
  · rintro rfl
    exact scoreOf_zero _

/-! ### The way to a score -/

/-- The numbers from which a score is computed one after the other, and the score. -/
def scoreSteps (common shared : ℕ) : List Binary64 :=
  [.ofNat 1, .tenth, .ofNat shared, Binary64.tenth.mul (.ofNat shared), factor shared,
    .ofNat common, scoreOf common shared]

/-- Counts that are machine words. -/
structure AreWords (common shared : ℕ) : Prop where
  common_lt : common < 2 ^ 64
  shared_lt : shared < 2 ^ 64

/-- Each number on the way to a score is zero, or it lies between those for the least and for the
greatest counts. -/
theorem isFinite_of_mem_scoreSteps (h : AreWords common shared) {x : Binary64}
    (hx : x ∈ scoreSteps common shared) : x.IsFinite := by
  obtain ⟨hcommon, hshared⟩ := h
  have hofNat {n : ℕ} (hn : n < 2 ^ 64) : (Binary64.ofNat n).IsFinite := by
    rcases Nat.eq_zero_or_pos n with rfl | hpos
    · exact .inl rfl
    · exact .of_between (.ofNat 1) (.ofNat (2 ^ 64)) (by decide +kernel)
        (Binary64.isNormal_nearest _ _)
        (Binary64.value_ofNat_mono hpos) (Binary64.value_ofNat_mono hn.le)
  simp only [scoreSteps, List.mem_cons, List.not_mem_nil, or_false] at hx
  rcases hx with rfl | rfl | rfl | rfl | rfl | rfl | rfl
  · decide +kernel
  · decide +kernel
  · exact hofNat hshared
  · rcases Nat.eq_zero_or_pos shared with rfl | hpos
    · exact .inl rfl
    · exact .of_between (Binary64.tenth.mul (.ofNat 1)) (Binary64.tenth.mul (.ofNat (2 ^ 64)))
        (by decide +kernel) (Binary64.isNormal_nearest _ _)
        (Binary64.value_mul_mono le_rfl (Binary64.value_ofNat_mono hpos))
        (Binary64.value_mul_mono le_rfl (Binary64.value_ofNat_mono hshared.le))
  · exact .of_between (factor 0) (factor (2 ^ 64)) (by decide +kernel)
      (Binary64.isNormal_nearest _ _)
      (value_factor_mono (Nat.zero_le _)) (value_factor_mono hshared.le)
  · exact hofNat hcommon
  · rcases Nat.eq_zero_or_pos common with rfl | hpos
    · exact .inl (scoreOf_zero _)
    · exact .of_between (scoreOf 1 0) (scoreOf (2 ^ 64) (2 ^ 64)) (by decide +kernel)
        (isNormal_scoreOf _ _)
        (value_scoreOf_mono hpos (Nat.zero_le _)) (value_scoreOf_mono hcommon.le hshared.le)

theorem isFinite_scoreOf (h : AreWords common shared) : (scoreOf common shared).IsFinite :=
  isFinite_of_mem_scoreSteps h (by simp [scoreSteps])

end Counts

/-! ### Scores of documents -/

/-- The numbers of a document's words and tags are machine words, as those of every list in memory
are. -/
def Document.IsCounted (d : Document) : Prop :=
  d.words.length < 2 ^ 64 ∧ d.tags.length < 2 ^ 64

namespace Profile

variable (p : Profile) {c c' : Document}

theorem areWords (h : c.IsCounted) : AreWords (p.commonWords c) (p.sharedTags c) where
  common_lt := List.countP_le_length.trans_lt h.1
  shared_lt := List.countP_le_length.trans_lt h.2

theorem isFinite_score (h : c.IsCounted) : (p.score c).IsFinite :=
  isFinite_scoreOf (p.areWords h)

theorem commonWords_eq_zero_iff : p.commonWords c = 0 ↔ ∀ w ∈ c.words, w ∉ p.words := by
  rw [commonWords, List.countP_eq_zero]
  simp only [List.contains_iff_mem]

/-- A document with all words of the query that another one has. -/
theorem commonWords_le_commonWords (h : ∀ w ∈ p.words, w ∈ c.words → w ∈ c'.words) :
    p.commonWords c ≤ p.commonWords c' := by
  refine countP_le_countP_of_nodup (nodup_eraseDups _) fun w hw hwp => ⟨?_, hwp⟩
  exact h w (List.contains_iff_mem.mp hwp) hw

end Profile

/-- A ranking goes by the words of the scores, if these are the words of numbers. -/
theorem rank_eq_mergeSort_totalCompare (query : Document) {docs : List Document}
    (h : ∀ d ∈ docs, d.IsCounted) :
    rank query docs = ((candidates query docs).map (scored query)).mergeSort
      fun a b => (totalCompare b.score.word a.score.word).isLE := by
  have hfinite : ∀ a ∈ (candidates query docs).map (scored query), a.score.IsFinite := by
    intro a ha
    obtain ⟨⟨d, i⟩, hd, rfl⟩ := List.mem_map.mp ha
    have hplace := List.mem_zipIdx_iff_getElem?.mp (List.mem_filter.mp hd).1
    rw [score_scored]
    exact (Profile.ofDocument query).isFinite_score (h d (List.mem_of_getElem? hplace))
  have hle : ∀ a ∈ (candidates query docs).map (scored query),
      ∀ b ∈ (candidates query docs).map (scored query),
        a.le b = (totalCompare b.score.word a.score.word).isLE := by
    intro a ha b hb
    rw [Binary64.totalCompare_word (hfinite b hb) (hfinite a ha), Bool.eq_iff_iff, Scored.le,
      Binary64.le_iff, ← Ordering.ne_gt_iff_isLE, ← compare_le_iff_le]
  rw [rank_eq_mergeSort]
  simpa using List.map_mergeSort (f := id) hle

/-- **What scores are, and what raises them.** A score is zero exactly where the document has no
word of the query, whatever tags they share, and at least one elsewhere. A document that has all
words of the query which another one has, and at least as many tags of it, where repeated tags count
each time, has no lower score. Let the numbers of words and of tags be machine words. Then all
numbers on the way to a score have a place in the interchange format, so that the score's word
stands for it, and is all zeros exactly where there is no common word; words compare as the scores
do, and a ranking by them is the ranking by the scores. -/
theorem score_by_overlap (query : Document) :
    let p := Profile.ofDocument query
    (∀ c, (p.score c = .zero ↔ ∀ w ∈ c.words, w ∉ query.words) ∧
      ((∃ w ∈ c.words, w ∈ query.words) → 1 ≤ (p.score c).value)) ∧
    (∀ c c', (∀ w ∈ query.words, w ∈ c.words → w ∈ c'.words) →
      c.tags.countP (· ∈ query.tags) ≤ c'.tags.countP (· ∈ query.tags) →
        (p.score c).value ≤ (p.score c').value) ∧
    (∀ c, c.IsCounted →
      (∀ x ∈ scoreSteps (p.commonWords c) (p.sharedTags c), x.IsFinite) ∧
      valueOfWord? (p.score c).word = some (p.score c).value ∧
      ((p.score c).word = 0 ↔ ∀ w ∈ c.words, w ∉ query.words)) ∧
    (∀ c c', c.IsCounted → c'.IsCounted →
      totalCompare (p.score c).word (p.score c').word =
        compare (p.score c).value (p.score c').value) ∧
    ∀ docs, (∀ d ∈ docs, d.IsCounted) →
      rank query docs = ((candidates query docs).map (scored query)).mergeSort
        fun a b => (totalCompare b.score.word a.score.word).isLE := by
  intro p
  have hzero (c : Document) : p.score c = .zero ↔ ∀ w ∈ c.words, w ∉ query.words :=
    scoreOf_eq_zero_iff.trans p.commonWords_eq_zero_iff
  have htags (c : Document) : p.sharedTags c = c.tags.countP (· ∈ query.tags) := by
    refine List.countP_congr fun t _ => ?_
    rw [List.contains_iff_mem, decide_eq_true_iff]
    exact Iff.rfl
  refine ⟨fun c => ⟨hzero c, ?_⟩, fun c c' hwords hcounts => ?_, fun c hc => ⟨?_, ?_, ?_⟩,
    fun c c' hc hc' => ?_, fun docs => rank_eq_mergeSort_totalCompare query⟩
  · rintro ⟨w, hw, hquery⟩
    refine one_le_value_scoreOf (fun hnone => ?_) _
    exact p.commonWords_eq_zero_iff.mp hnone w hw hquery
  · rw [← htags, ← htags] at hcounts
    exact value_scoreOf_mono (p.commonWords_le_commonWords hwords) hcounts
  · exact fun x => isFinite_of_mem_scoreSteps (p.areWords hc)
  · exact Binary64.valueOfWord?_word (p.isFinite_score hc)
  · exact (Binary64.word_eq_zero_iff (p.isFinite_score hc)).trans (hzero c)
  · exact Binary64.totalCompare_word (p.isFinite_score hc) (p.isFinite_score hc')

/-- A document with one word of the query and one of its tags, another with a word more and the tag
twice, and a third with both tags of the query and no word. -/
theorem score_by_overlap_of_repeated_tag :
    let query : Document :=
      { id := "q", slug := "q", title := "Scaling Postgres", tags := ["database", "scaling"] }
    let c : Document :=
      { id := "a", slug := "a", title := "Postgres replication", tags := ["scaling", "go"] }
    let c' : Document :=
      { id := "b", slug := "b", title := "Scaling POSTGRES", tags := ["scaling", "scaling"] }
    let c'' : Document :=
      { id := "c", slug := "c", title := "Networks", tags := ["scaling", "database"] }
    let p := Profile.ofDocument query
    c.IsCounted ∧ c'.IsCounted ∧ c''.IsCounted ∧
      (∀ w ∈ query.words, w ∈ c.words → w ∈ c'.words) ∧
      c.tags.countP (· ∈ query.tags) ≤ c'.tags.countP (· ∈ query.tags) ∧
      1 ≤ (p.score c).value ∧ (p.score c).value ≤ (p.score c').value ∧ (p.score c'').word = 0 ∧
      totalCompare (p.score c'').word (p.score c).word =
        compare (p.score c'').value (p.score c).value := by
  intro query c c' c'' p
  obtain ⟨hc, hc', hc''⟩ : c.words = ["postgres".toList, "replication".toList] ∧
      c'.words = ["scaling".toList, "postgres".toList] ∧ c''.words = ["networks".toList] := by
    decide +kernel
  have hquery : query.words = ["scaling".toList, "postgres".toList] := by decide +kernel
  have hcounted : c.IsCounted ∧ c'.IsCounted ∧ c''.IsCounted := by
    simp only [Document.IsCounted, hc, hc', hc'']
    decide
  have hwords : ∀ w ∈ query.words, w ∈ c.words → w ∈ c'.words := by
    rw [hquery, hc']
    exact fun w hw _ => hw
  have htags : c.tags.countP (· ∈ query.tags) ≤ c'.tags.countP (· ∈ query.tags) := by decide
  obtain ⟨hscores, hmono, hwordsOf, hcompare, -⟩ := score_by_overlap query
  have hnone : ∀ w ∈ c''.words, w ∉ query.words := by
    rw [hquery, hc'']
    decide
  have hsome : ∃ w ∈ c.words, w ∈ query.words := by
    rw [hquery, hc]
    exact ⟨"postgres".toList, by decide, by decide⟩
  exact ⟨hcounted.1, hcounted.2.1, hcounted.2.2, hwords, htags, (hscores c).2 hsome,
    hmono c c' hwords htags, (hwordsOf c'' hcounted.2.2).2.2.mpr hnone,
    hcompare c'' c hcounted.2.2 hcounted.1⟩

end DocSite
