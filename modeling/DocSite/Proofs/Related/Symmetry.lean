import DocSite.Proofs.Related.Range

/-!
# Relatedness in both directions

A score looks at the two documents in different ways: the query's tags are a set, and those of the
other document are counted one by one.

* `commonWords_comm`: the number of common words is the same either way.
* `sharedTags_le_sharedTags`: repeating tags can only raise the number of shared ones, and it does
  so where the document that repeats them is not the query. So without repeated tags this number is
  the same either way too (`sharedTags_comm`).
* `score_comm` puts these together.
-/

namespace DocSite.Profile

theorem commonWords_comm (a b : Document) :
    (ofDocument a).commonWords b = (ofDocument b).commonWords a :=
  countP_contains_comm (nodup_eraseDups _) (nodup_eraseDups _)

/-- The shared tags of a document that repeats none are counted once. They are counted at least once
where it is the query. -/
theorem sharedTags_le_sharedTags {a : Document} (ha : a.tags.Nodup) (b : Document) :
    (ofDocument b).sharedTags a ≤ (ofDocument a).sharedTags b :=
  countP_contains_le ha b.tags

theorem sharedTags_comm {a b : Document} (ha : a.tags.Nodup) (hb : b.tags.Nodup) :
    (ofDocument a).sharedTags b = (ofDocument b).sharedTags a :=
  Nat.le_antisymm (sharedTags_le_sharedTags hb a) (sharedTags_le_sharedTags ha b)

/-- **Relatedness is symmetric up to repeated tags.** Let `a` be a document that repeats no tag.
Whatever the two texts are, the score of a document `b` for `a` is not below that of `a` for `b`,
and if `b` repeats no tag either, they are the same number. -/
theorem score_comm {a : Document} (ha : a.tags.Nodup) (b : Document) :
    ((ofDocument b).score a).value ≤ ((ofDocument a).score b).value ∧
      (b.tags.Nodup → (ofDocument a).score b = (ofDocument b).score a) := by
  constructor
  · exact value_scoreOf_mono (commonWords_comm b a).le (sharedTags_le_sharedTags ha b)
  · intro hb
    rw [score, score, commonWords_comm, sharedTags_comm ha hb]

/-- Two documents with one tag and two words in common, which they have in other places and one of
them repeatedly; and a copy of one that repeats the tag and is related to the other one more. -/
theorem score_comm_of_repeated_words :
    let a : Document :=
      { id := "a", slug := "a", title := "Scaling Postgres", tags := ["database", "scaling"],
        bodyText := "postgres clusters" }
    let b : Document :=
      { id := "b", slug := "b", title := "Networks", tags := ["scaling", "go", "ops"],
        bodyText := "Scaling POSTGRES scaling" }
    let c : Document := { b with tags := ["scaling", "scaling"] }
    a.tags.Nodup ∧ b.tags.Nodup ∧ (ofDocument a).score b = (ofDocument b).score a ∧
      (ofDocument a).score b = scoreOf 2 1 ∧
      ((ofDocument c).score a).value ≤ ((ofDocument a).score c).value ∧
      (ofDocument c).score a ≠ (ofDocument a).score c := by
  intro a b c
  have ha : a.tags.Nodup := by decide
  have hb : b.tags.Nodup := by decide
  obtain ⟨hcommon, hshared⟩ :
      (ofDocument a).commonWords b = 2 ∧ (ofDocument a).sharedTags b = 1 := by decide +kernel
  refine ⟨ha, hb, (score_comm ha b).2 hb, ?_, (score_comm ha c).1, by decide +kernel⟩
  rw [score, hcommon, hshared]

end DocSite.Profile
