import DocSite.Program
import DocSite.Proofs.Catalog.Collect
import DocSite.Proofs.Record.Normalize
import Mathlib.Data.List.Nodup

/-!
# Documents are found by their slugs

* `findBySlug_eq_some_iff`: a text leads to the first document whose slug is the cleaned text.
* `clean_slug_of_mem_collect`: the slugs of a listing are clean, so the slug that a listing shows
  leads to the first document that has it.
* `finds_listed_slug` puts these together, with what the commands answer that take a slug.
-/

namespace DocSite

/-! ### The first document with a slug -/

/-- No document before `e` has the slug, and `e` has it. -/
def IsFirstWithSlug (docs : List Document) (slug : String) (e : Document) : Prop :=
  ∃ before after, docs = before ++ e :: after ∧ e.slug = slug ∧ ∀ b ∈ before, b.slug ≠ slug

theorem findBySlug_eq_some_iff {docs : List Document} {s : String} {e : Document} :
    findBySlug docs s = some e ↔ IsFirstWithSlug docs (Slug.clean s) e := by
  rw [findBySlug, List.find?_eq_some_iff_append, IsFirstWithSlug]
  simp only [beq_iff_eq, Bool.not_eq_true', beq_eq_false_iff_ne]
  constructor
  · rintro ⟨hslug, before, after, hdocs, hbefore⟩
    exact ⟨before, after, hdocs, hslug, hbefore⟩
  · rintro ⟨before, after, hdocs, hslug, hbefore⟩
    exact ⟨hslug, before, after, hdocs, hbefore⟩

theorem IsFirstWithSlug.mem {docs : List Document} {slug : String} {e : Document}
    (h : IsFirstWithSlug docs slug e) : e ∈ docs := by
  obtain ⟨before, after, rfl, -⟩ := h
  exact List.mem_append_right _ List.mem_cons_self

theorem IsFirstWithSlug.slug_eq {docs : List Document} {slug : String} {e : Document}
    (h : IsFirstWithSlug docs slug e) : e.slug = slug := by
  obtain ⟨before, after, -, hslug, -⟩ := h
  exact hslug

/-- Among documents with different slugs the first one with a slug is the only one. -/
theorem IsFirstWithSlug.eq_of_nodup {docs : List Document} {d e : Document}
    (h : IsFirstWithSlug docs d.slug e) (hd : d ∈ docs)
    (hnodup : (docs.map (·.slug)).Nodup) : e = d :=
  List.inj_on_of_nodup_map hnodup h.mem hd h.slug_eq

/-- A text that cleans to a document's slug finds a document. -/
theorem exists_findBySlug_eq_some {docs : List Document} {d : Document} (hd : d ∈ docs)
    {s : String} (hs : Slug.clean s = d.slug) : ∃ e, findBySlug docs s = some e := by
  rw [← Option.isSome_iff_exists, findBySlug, List.find?_isSome]
  exact ⟨d, hd, by rw [hs, beq_self_eq_true]⟩

/-! ### Slugs of a listing -/

/-- The slugs of a listing are clean. -/
theorem clean_slug_of_mem_collect {order : CategoryOrder} {fetched : Fetched}
    {docs : List Document} (h : collect order fetched = .ok docs) {d : Document} (hd : d ∈ docs) :
    Slug.clean d.slug = d.slug := by
  obtain ⟨r, hr⟩ := exists_normalize_of_mem_collect h hd
  exact RawRecord.clean_slug_of_normalize hr

/-! ### Commands that take a slug -/

/-- The documents that are printed as related to one. -/
def relatedTo (settings : Settings) (docs : List Document) (e : Document) (count : Option ℕ) :
    List Scored :=
  (rank e docs).take (count.getD settings.listing.relatedCount)

theorem answer_describe {docs : List Document} {s : String} {e : Document}
    (h : findBySlug docs s = some e) (settings : Settings) :
    Command.answer settings docs (.describe s) = .ok (Answer.ofLines
      (Answer.description settings.content.routePrefix e (neighbours docs e))) := by
  rw [Command.answer, requireSlug, h]
  rfl

theorem answer_related {docs : List Document} {s : String} {e : Document}
    (h : findBySlug docs s = some e) (settings : Settings) (count : Option ℕ) (json : Bool) :
    Command.answer settings docs (.related s count json) = .ok
      (if json then
        (Answer.relatedRows settings.content.routePrefix
          (relatedTo settings docs e count)).pretty ++ "\n"
      else Answer.ofLines (Answer.related settings.content.routePrefix e
          (relatedTo settings docs e count))) := by
  rw [Command.answer, relatedAnswer, requireSlug, h]
  cases json <;> rfl

/-! ### What a slug of a listing finds -/

/-- **Every slug that a listing shows is found.** Let `d` be a document of a listing. Its slug is
clean, and it is what the raw slug of its record cleans to unless that is nothing. Every text that
cleans to it finds the first document `e` with this slug, which is `d` if slugs are not shared, and
the commands that take a slug answer about `e`. -/
theorem finds_listed_slug {order : CategoryOrder} {fetched : Fetched} {docs : List Document}
    (h : collect order fetched = .ok docs) {d : Document} (hd : d ∈ docs) :
    Slug.clean d.slug = d.slug ∧
      (∀ r : RawRecord, r.normalize = .ok d → ∀ raw, r.slug = some raw → Slug.clean raw ≠ "" →
        Slug.clean raw = d.slug) ∧
      ∀ s, Slug.clean s = d.slug → ∃ e, findBySlug docs s = some e ∧
        IsFirstWithSlug docs d.slug e ∧ ((docs.map (·.slug)).Nodup → e = d) ∧
        (∀ settings, Command.answer settings docs (.describe s) = .ok (Answer.ofLines
          (Answer.description settings.content.routePrefix e (neighbours docs e)))) ∧
        ∀ settings count json, Command.answer settings docs (.related s count json) = .ok
          (if json then
            (Answer.relatedRows settings.content.routePrefix
              (relatedTo settings docs e count)).pretty ++ "\n"
          else Answer.ofLines (Answer.related settings.content.routePrefix e
              (relatedTo settings docs e count))) := by
  refine ⟨clean_slug_of_mem_collect h hd, fun r hr raw hraw hne => ?_, fun s hs => ?_⟩
  · exact (RawRecord.slug_eq_clean_of_normalize hr hraw hne).symm
  · obtain ⟨e, he⟩ := exists_findBySlug_eq_some hd hs
    have hfirst : IsFirstWithSlug docs d.slug e := hs ▸ findBySlug_eq_some_iff.mp he
    exact ⟨e, he, hfirst, hfirst.eq_of_nodup hd, answer_describe he, answer_related he⟩

/-- A text in another case and with other separators finds the first of two documents whose slug it
cleans to. -/
theorem finds_listed_slug_of_shared_slug :
    let records : List RawRecord := [{ id := some "x", title := some "A", slug := some "ΟΔΟΣ/1" },
      { id := some "οδος 1", title := some "B", slug := some "--" }]
    let docs : List Document := [{ id := "x", title := "A", slug := "οδος-1" },
      { id := "οδος 1", title := "B", slug := "οδος-1" }]
    collect .default (.ok records) = .ok docs ∧
      ∃ d ∈ docs, d.id = "οδος 1" ∧ Slug.clean "Οδος_1" = d.slug ∧
        ∃ e, findBySlug docs "Οδος_1" = some e ∧ IsFirstWithSlug docs d.slug e := by
  intro records docs
  have hrecords : records.mapM RawRecord.normalize = .ok docs := by decide +kernel
  have hcollect : collect .default (.ok records) = .ok docs :=
    collect_ok_of_pairwise hrecords (by decide +kernel)
  have hd : (⟨"οδος 1", "οδος-1", "B", none, none, [], false, none, [], ""⟩ : Document) ∈ docs := by
    decide
  have hs : Slug.clean "Οδος_1" = "οδος-1" := by decide +kernel
  obtain ⟨-, -, hfinds⟩ := finds_listed_slug hcollect hd
  obtain ⟨e, he, hfirst, -⟩ := hfinds "Οδος_1" hs
  exact ⟨hcollect, _, hd, rfl, hs, e, he, hfirst⟩

end DocSite
