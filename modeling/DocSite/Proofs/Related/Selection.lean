import DocSite.Proofs.Related

/-!
# Rankings of a part of a collection

A score depends on the query and on one document only, and the sort is stable, so the other
documents of a collection do not matter.

* `rank_filter`: to rank the documents of one kind is to rank all and to look at these.
* `rank_sublist`: documents that are taken out, all of a kind or single copies, leave the others
  with their scores and in their order.
* `rank_of_selection` puts these together.
-/

namespace DocSite

variable {query : Document} {docs docs' : List Document}

/-- A ranking sorts the documents that are not the query, each with its score. -/
theorem rank_eq_mergeSort_filter (query : Document) (docs : List Document) :
    rank query docs = ((docs.filter (!(Profile.ofDocument query).isQuery ·)).map
      fun d => ⟨d, (Profile.ofDocument query).score d⟩).mergeSort Scored.le :=
  rfl

theorem rank_filter (query : Document) (docs : List Document) (p : Document → Bool) :
    rank query (docs.filter p) = (rank query docs).filter fun s => p s.document := by
  rw [rank_eq_mergeSort_filter, rank_eq_mergeSort_filter,
    filter_mergeSort Scored.le_trans Scored.le_total, List.filter_map]
  congr 2
  -- Both are the documents of this kind that are not the query.
  rw [List.filter_filter, List.filter_filter]
  exact List.filter_congr fun d _ => Bool.and_comm _ _

theorem rank_sublist (h : docs.Sublist docs') : (rank query docs).Sublist (rank query docs') := by
  rw [rank_eq_mergeSort_filter, rank_eq_mergeSort_filter]
  exact sublist_mergeSort Scored.le_trans Scored.le_total ((h.filter _).map _)

/-- **Other documents do not matter.** The ranking of the documents of one kind is the ranking of
the whole collection without the other ones, scores included. So collections with the same documents
of this kind, in the same order, rank them in the same way; and documents that are taken out, even
one of several copies, leave the others with their scores and in their order. -/
theorem rank_of_selection (query : Document) :
    (∀ (docs : List Document) (p : Document → Bool),
      rank query (docs.filter p) = (rank query docs).filter fun s => p s.document) ∧
    (∀ (docs docs' : List Document) (p : Document → Bool), docs.filter p = docs'.filter p →
      ((rank query docs).filter fun s => p s.document) =
        (rank query docs').filter fun s => p s.document) ∧
    ∀ docs docs' : List Document, docs.Sublist docs' →
      (rank query docs).Sublist (rank query docs') := by
  refine ⟨rank_filter query, fun docs docs' p h => ?_, fun _ _ => rank_sublist⟩
  rw [← rank_filter, ← rank_filter, h]

/-- A draft between two documents of one score, and one of two copies of it, are taken out. -/
theorem rank_of_selection_of_draft :
    let query : Document := { id := "q", slug := "q", title := "Scaling Postgres" }
    let a : Document := { id := "a", slug := "a", title := "Postgres" }
    let b : Document := { id := "b", slug := "b", title := "Scaling Postgres", draft := true }
    let c : Document := { id := "c", slug := "c", title := "Scaling" }
    [a, b, c, b].filter (!·.draft) = [b, a, c].filter (!·.draft) ∧
      ((rank query [a, b, c, b]).filter fun s => !s.document.draft) =
        ((rank query [b, a, c]).filter fun s => !s.document.draft) ∧
      (rank query [a, c]) = (rank query [a, b, c, b]).filter (fun s => !s.document.draft) ∧
      [a, b, c].Sublist [a, b, c, b] ∧
      (rank query [a, b, c]).Sublist (rank query [a, b, c, b]) := by
  intro query a b c
  have hkept : [a, b, c, b].filter (!·.draft) = [b, a, c].filter (!·.draft) := by decide
  have hsublist : [a, b, c].Sublist [a, b, c, b] := List.sublist_append_left [a, b, c] [b]
  obtain ⟨hfilter, hsame, hpart⟩ := rank_of_selection query
  exact ⟨hkept, hsame _ _ _ hkept, hfilter [a, b, c, b] (!·.draft), hsublist, hpart _ _ hsublist⟩

end DocSite
