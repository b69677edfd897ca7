import DocSite.Listing.Tags
import DocSite.Proofs.Catalog.Collect
import DocSite.Proofs.Distinct
import DocSite.Proofs.Record.Names
import DocSite.Proofs.StableSort
import Mathlib.Logic.Function.Basic

/-!
# The index of tags and the documents of a tag agree

* `foldl_countTags_apply`: counting one document after the other, each once for a tag it repeats,
  gives the number of documents that carry the tag.
* `TagCount.Counts`: some entries hold the counts of a function, in the order of the tags. This is
  kept by each tag (`TagCount.Counts.add`), each document and so all of them.
* `mem_tagIndex_iff`: the index has the tags that some document carries, with these numbers.
* `pairwise_tagIndex`: its entries are in strict order, by count and then by the bytes of the tag
  (`TagCount.Before`), because the sort keeps the order of the tags where counts are equal.
* `clean_tag_of_mem_collect`: the tags of a listing are clean, so a listed tag asks for itself.
* `tag_index_of_listing` puts these together.
-/

namespace DocSite

/-! ### Counting one document after the other -/

/-- The counts of tags after one more document. A tag that it repeats is counted once. -/
def countTags (counts : String → ℕ) (d : Document) : String → ℕ :=
  d.tags.eraseDups.foldl (fun counts tag => Function.update counts tag (counts tag + 1)) counts

theorem foldl_update_apply (tags : List String) (counts : String → ℕ) (t : String) :
    tags.foldl (fun counts tag => Function.update counts tag (counts tag + 1)) counts t =
      counts t + tags.count t := by
  induction tags generalizing counts with
  | nil => rfl
  | cons tag tags ih =>
    rw [List.foldl_cons, ih]
    by_cases ht : t = tag
    · subst ht
      rw [Function.update_self, List.count_cons_self]
      omega
    · rw [Function.update_of_ne ht, List.count_cons_of_ne (Ne.symm ht)]

theorem countTags_apply (counts : String → ℕ) (d : Document) (t : String) :
    countTags counts d t = counts t + if d.tags.contains t then 1 else 0 := by
  rw [countTags, foldl_update_apply]
  by_cases ht : t ∈ d.tags
  · have hone : d.tags.eraseDups.count t = 1 :=
      List.count_eq_one_of_mem (nodup_eraseDups _) (List.mem_eraseDups.mpr ht)
    rw [hone, if_pos (List.contains_iff_mem.mpr ht)]
  · have hzero : d.tags.eraseDups.count t = 0 :=
      List.count_eq_zero_of_not_mem fun hmem => ht (List.mem_eraseDups.mp hmem)
    rw [hzero, if_neg fun hcontains => ht (List.contains_iff_mem.mp hcontains)]

/-- Counting documents one after the other gives the number of those that carry a tag. -/
theorem foldl_countTags_apply (docs : List Document) (counts : String → ℕ) (t : String) :
    docs.foldl countTags counts t = counts t + docs.countP (·.tags.contains t) := by
  induction docs generalizing counts with
  | nil => rfl
  | cons d docs ih =>
    rw [List.foldl_cons, ih, countTags_apply, List.countP_cons]
    omega

/-! ### Entries that hold counts -/

namespace TagCount

variable {tag t : String} {entries : List TagCount} {counts : String → ℕ} {e : TagCount}

/-- How many documents some entries count for a tag. -/
def countOf : List TagCount → String → ℕ
  | [], _ => 0
  | e :: rest, t => (if e.tag = t then e.count else 0) + countOf rest t

theorem countOf_cons (e : TagCount) (rest : List TagCount) (t : String) :
    countOf (e :: rest) t = (if e.tag = t then e.count else 0) + countOf rest t :=
  rfl

theorem countOf_eq_zero (h : ∀ e ∈ entries, e.tag ≠ t) : countOf entries t = 0 := by
  induction entries with
  | nil => rfl
  | cons e rest ih =>
    obtain ⟨he, hrest⟩ := List.forall_mem_cons.mp h
    rw [countOf_cons, if_neg he, ih hrest]

/-- Entries hold counts: each tag has one entry with its number, unless this is zero, and they are
in the order of the tags. -/
structure Counts (entries : List TagCount) (counts : String → ℕ) : Prop where
  sorted : entries.Pairwise fun a b => Ord.compare a.tag b.tag = .lt
  pos : ∀ e ∈ entries, 0 < e.count
  countOf_eq : countOf entries = counts

theorem Counts.tag_ne (h : Counts entries counts) :
    entries.Pairwise fun a b => a.tag ≠ b.tag := by
  refine h.sorted.imp fun {a b} hab heq => ?_
  rw [heq, Std.ReflOrd.compare_self] at hab
  cases hab

theorem countOf_eq_count (h : entries.Pairwise fun a b => a.tag ≠ b.tag) (he : e ∈ entries) :
    countOf entries e.tag = e.count := by
  induction entries with
  | nil => exact absurd he List.not_mem_nil
  | cons x rest ih =>
    obtain ⟨hx, hrest⟩ := List.pairwise_cons.mp h
    rw [countOf_cons]
    rcases List.mem_cons.mp he with rfl | he
    · rw [if_pos rfl, countOf_eq_zero fun y hy => (hx y hy).symm, Nat.add_zero]
    · rw [if_neg (hx e he), ih hrest he, Nat.zero_add]

/-- The entries are the tags with a positive count. -/
theorem Counts.mem_iff (h : Counts entries counts) :
    e ∈ entries ↔ 0 < e.count ∧ e.count = counts e.tag := by
  rw [← h.countOf_eq]
  constructor
  · exact fun he => ⟨h.pos e he, (countOf_eq_count h.tag_ne he).symm⟩
  · rintro ⟨hpos, hcount⟩
    obtain ⟨e', he', htag⟩ : ∃ e' ∈ entries, e'.tag = e.tag := by
      by_contra hnone
      push Not at hnone
      rw [countOf_eq_zero hnone] at hcount
      omega
    have hcount' := countOf_eq_count h.tag_ne he'
    rw [htag, ← hcount] at hcount'
    have heq : e' = e := by
      cases e
      cases e'
      simp_all
    exact heq ▸ he'

/-! ### One more document -/

theorem tag_of_mem_add (h : e ∈ add tag entries) :
    e.tag = tag ∨ ∃ e' ∈ entries, e'.tag = e.tag := by
  induction entries with
  | nil =>
    obtain rfl := List.mem_singleton.mp h
    exact .inl rfl
  | cons x rest ih =>
    rw [add] at h
    split at h
    · rcases List.mem_cons.mp h with rfl | h
      · exact .inl rfl
      · exact .inr ⟨e, h, rfl⟩
    · rcases List.mem_cons.mp h with rfl | h
      · exact .inr ⟨x, List.mem_cons_self, rfl⟩
      · exact .inr ⟨e, List.mem_cons_of_mem _ h, rfl⟩
    · rcases List.mem_cons.mp h with rfl | h
      · exact .inr ⟨e, List.mem_cons_self, rfl⟩
      · exact (ih h).imp_right fun ⟨e', he', htag⟩ => ⟨e', List.mem_cons_of_mem _ he', htag⟩

theorem sorted_add (h : entries.Pairwise fun a b => Ord.compare a.tag b.tag = .lt) :
    (add tag entries).Pairwise fun a b => Ord.compare a.tag b.tag = .lt := by
  induction entries with
  | nil => exact List.pairwise_singleton _ _
  | cons x rest ih =>
    obtain ⟨hx, hrest⟩ := List.pairwise_cons.mp h
    rw [add]
    split
    · rename_i hlt
      refine List.pairwise_cons.mpr ⟨fun e he => ?_, h⟩
      rcases List.mem_cons.mp he with rfl | he
      · exact hlt
      · exact Std.TransCmp.lt_trans hlt (hx e he)
    · exact List.pairwise_cons.mpr ⟨hx, hrest⟩
    · rename_i hgt
      refine List.pairwise_cons.mpr ⟨fun e he => ?_, ih hrest⟩
      rcases tag_of_mem_add he with htag | ⟨e', he', htag⟩
      · rw [htag]
        exact Std.OrientedCmp.gt_iff_lt.mp hgt
      · exact htag ▸ hx e' he'

theorem pos_of_mem_add (h : ∀ e ∈ entries, 0 < e.count) : ∀ e ∈ add tag entries, 0 < e.count := by
  induction entries with
  | nil => simp [add]
  | cons x rest ih =>
    obtain ⟨hx, hrest⟩ := List.forall_mem_cons.mp h
    rw [add]
    split
    · exact List.forall_mem_cons.mpr ⟨Nat.one_pos, h⟩
    · exact List.forall_mem_cons.mpr ⟨Nat.succ_pos _, hrest⟩
    · exact List.forall_mem_cons.mpr ⟨hx, ih hrest⟩

theorem countOf_add (tag : String) (entries : List TagCount) :
    countOf (add tag entries) =
      Function.update (countOf entries) tag (countOf entries tag + 1) := by
  funext t
  induction entries with
  | nil =>
    by_cases ht : t = tag
    · simp [add, countOf, ht]
    · simp [add, countOf, ht, Ne.symm ht]
  | cons x rest ih =>
    rw [add]
    by_cases ht : t = tag
    · subst ht
      rw [Function.update_self] at ih ⊢
      split
      · simp only [countOf_cons, if_true]
        omega
      · rename_i heq
        have hx : x.tag = t := (Std.LawfulEqOrd.eq_of_compare heq).symm
        simp only [countOf_cons, hx, if_true]
        omega
      · rw [countOf_cons, ih, countOf_cons]
        omega
    · rw [Function.update_of_ne ht] at ih ⊢
      split
      · rw [countOf_cons, if_neg (Ne.symm ht), Nat.zero_add]
      · rename_i heq
        have hx : x.tag ≠ t := fun h => ht (h ▸ (Std.LawfulEqOrd.eq_of_compare heq).symm)
        simp only [countOf_cons, if_neg hx]
      · rw [countOf_cons, ih, countOf_cons]

/-- One more tag is counted. -/
theorem Counts.add (h : Counts entries counts) (tag : String) :
    Counts (add tag entries) (Function.update counts tag (counts tag + 1)) where
  sorted := sorted_add h.sorted
  pos := pos_of_mem_add h.pos
  countOf_eq := by rw [countOf_add, h.countOf_eq]

/-- One more document is counted. -/
theorem Counts.addDocument (h : Counts entries counts) (d : Document) :
    Counts (addDocument entries d) (countTags counts d) := by
  rw [TagCount.addDocument, countTags]
  induction d.tags.eraseDups generalizing entries counts with
  | nil => exact h
  | cons tag tags ih => exact ih (h.add tag)

/-- All documents are counted. -/
theorem Counts.foldl_addDocument (h : Counts entries counts) (docs : List Document) :
    Counts (docs.foldl TagCount.addDocument entries) (docs.foldl countTags counts) := by
  induction docs generalizing entries counts with
  | nil => exact h
  | cons d docs ih => exact ih (h.addDocument d)

end TagCount

/-- The index has the counts of the documents. -/
theorem counts_of_documents (docs : List Document) :
    TagCount.Counts (docs.foldl TagCount.addDocument [])
      fun t => docs.countP (·.tags.contains t) := by
  have hnone : TagCount.Counts [] fun _ => 0 := ⟨.nil, by simp, rfl⟩
  have hcounts := hnone.foldl_addDocument docs
  have heq : docs.foldl countTags (fun _ => 0) = fun t => docs.countP (·.tags.contains t) := by
    funext t
    rw [foldl_countTags_apply, Nat.zero_add]
  rwa [heq] at hcounts

/-! ### Entries of the index -/

/-- The index has the tags that some document carries, with the numbers of their documents. -/
theorem mem_tagIndex_iff {docs : List Document} {e : TagCount} :
    e ∈ tagIndex docs ↔
      (∃ d ∈ docs, e.tag ∈ d.tags) ∧ e.count = docs.countP (·.tags.contains e.tag) := by
  rw [tagIndex, List.mem_mergeSort, (counts_of_documents docs).mem_iff]
  refine and_congr_left fun hcount => ?_
  rw [hcount, List.countP_pos_iff]
  simp only [List.contains_iff_mem]

theorem mem_map_tag_tagIndex_iff {docs : List Document} {t : String} :
    t ∈ (tagIndex docs).map (·.tag) ↔ ∃ d ∈ docs, t ∈ d.tags := by
  rw [List.mem_map]
  constructor
  · rintro ⟨e, he, rfl⟩
    exact (mem_tagIndex_iff.mp he).1
  · intro ht
    let e : TagCount := ⟨t, docs.countP (·.tags.contains t)⟩
    exact ⟨e, mem_tagIndex_iff.mpr ⟨ht, rfl⟩, rfl⟩

/-! ### The order of the index -/

namespace TagCount

/-- An entry stands before another: its count is greater, or at equal counts the bytes of its tag
are smaller. -/
def Before (a b : TagCount) : Prop :=
  b.count < a.count ∨
    a.count = b.count ∧ List.Lex (· < ·) (Text.utf8 a.tag) (Text.utf8 b.tag)

theorem notRarer_iff {a b : TagCount} : a.notRarer b ↔ b.count ≤ a.count := by
  simp [notRarer]

theorem notRarer_trans (a b c : TagCount) (hab : a.notRarer b) (hbc : b.notRarer c) :
    a.notRarer c := by
  rw [notRarer_iff] at *
  omega

theorem notRarer_total (a b : TagCount) : a.notRarer b || b.notRarer a := by
  rw [Bool.or_eq_true, notRarer_iff, notRarer_iff]
  exact Nat.le_total _ _

end TagCount

/-- The entries of an index are in strict order: equal counts keep the order of the tags. -/
theorem pairwise_tagIndex (docs : List Document) : (tagIndex docs).Pairwise TagCount.Before := by
  have hsorted := pairwise_mergeSort_of_pairwise TagCount.notRarer TagCount.notRarer_trans
    TagCount.notRarer_total (counts_of_documents docs).sorted
  refine hsorted.imp fun {a b} hab => ?_
  obtain ⟨hle, htag⟩ := hab
  rw [TagCount.notRarer_iff] at hle htag
  rcases Nat.lt_or_eq_of_le hle with hlt | heq
  · exact .inl hlt
  · exact .inr ⟨heq.symm, (Text.compare_eq_lt_iff _ _).mp (htag heq.ge)⟩

theorem nodup_tagIndex (docs : List Document) : ((tagIndex docs).map (·.tag)).Nodup := by
  have hperm : (tagIndex docs).Perm (docs.foldl TagCount.addDocument []) := List.mergeSort_perm _ _
  rw [(hperm.map _).nodup_iff, List.Nodup, List.pairwise_map]
  exact (counts_of_documents docs).tag_ne

/-! ### Documents of a tag -/

theorem withTag_ne_nil_iff {docs : List Document} {s : String} :
    withTag docs s ≠ [] ↔ ∃ d ∈ docs, Slug.clean s ∈ d.tags := by
  simp [withTag]

theorem length_withTag (docs : List Document) {t : String} (ht : Slug.clean t = t) :
    (withTag docs t).length = docs.countP (·.tags.contains t) := by
  rw [withTag, ht, List.countP_eq_length_filter]

/-- The tags of a listing are clean. -/
theorem clean_tag_of_mem_collect {order : CategoryOrder} {fetched : Fetched}
    {docs : List Document} (h : collect order fetched = .ok docs) {d : Document} (hd : d ∈ docs)
    {t : String} (ht : t ∈ d.tags) : Slug.clean t = t := by
  obtain ⟨r, hr⟩ := exists_normalize_of_mem_collect h hd
  rw [RawRecord.tags_of_normalize hr] at ht
  obtain ⟨raw, -, rfl⟩ := List.mem_map.mp ht
  exact Slug.clean_clean raw

/-- **The index of tags and the documents of a tag agree.** The index of a listing has each tag that
some document carries once, in strict order of counts and names. Its counts are the lengths of the
lists of documents with the tag, which is also what counting one document after the other gives. For
every text, the documents with it as a tag are those that carry the cleaned text, in the order of
the listing, and there are any exactly when the index has the cleaned text. -/
theorem tag_index_of_listing {order : CategoryOrder} {fetched : Fetched} {docs : List Document}
    (h : collect order fetched = .ok docs) :
    ((tagIndex docs).map (·.tag)).Nodup ∧
      (∀ t, t ∈ (tagIndex docs).map (·.tag) ↔ ∃ d ∈ docs, t ∈ d.tags) ∧
      (tagIndex docs).Pairwise TagCount.Before ∧
      (∀ e ∈ tagIndex docs, e.count = (withTag docs e.tag).length ∧
        e.count = docs.countP (fun d => e.tag ∈ d.tags) ∧
        e.count = docs.foldl countTags (fun _ => 0) e.tag) ∧
      ∀ s, withTag docs s = docs.filter (fun d => Slug.clean s ∈ d.tags) ∧
        (withTag docs s ≠ [] ↔ Slug.clean s ∈ (tagIndex docs).map (·.tag)) := by
  have hmem (t : String) (d : Document) : d.tags.contains t = decide (t ∈ d.tags) := by
    rw [Bool.eq_iff_iff, List.contains_iff_mem, decide_eq_true_iff]
  refine ⟨nodup_tagIndex docs, fun t => mem_map_tag_tagIndex_iff, pairwise_tagIndex docs,
    fun e he => ?_, fun s => ⟨?_, ?_⟩⟩
  · obtain ⟨⟨d, hd, ht⟩, hcount⟩ := mem_tagIndex_iff.mp he
    refine ⟨?_, ?_, ?_⟩
    · rw [length_withTag docs (clean_tag_of_mem_collect h hd ht), hcount]
    · simp only [← hmem]
      exact hcount
    · rw [foldl_countTags_apply, hcount, Nat.zero_add]
  · simp only [withTag, hmem]
  · rw [withTag_ne_nil_iff, mem_map_tag_tagIndex_iff]

/-- Two documents of one tag, which the first of them repeats, with an empty tag beside it. -/
theorem tag_index_of_repeated_tag :
    let records : List RawRecord := [
      { id := some "a", title := some "A", tags := some ["Rust", "rust", "!"] },
      { id := some "b", title := some "B", tags := some ["RUST"] }]
    let docs : List Document := [
      { id := "a", slug := "a", title := "A", tags := ["rust", "rust", ""] },
      { id := "b", slug := "b", title := "B", tags := ["rust"] }]
    collect .default (.ok records) = .ok docs ∧ ⟨"rust", 2⟩ ∈ tagIndex docs ∧
      2 = (withTag docs "rust").length ∧ withTag docs "-Rust-" ≠ [] ∧ withTag docs "?" ≠ [] ∧
      withTag docs "Go" = [] := by
  intro records docs
  have hrecords : records.mapM RawRecord.normalize = .ok docs := by decide +kernel
  have hcollect : collect .default (.ok records) = .ok docs :=
    collect_ok_of_pairwise hrecords (by decide +kernel)
  obtain ⟨-, htags, -, hcounts, hwith⟩ := tag_index_of_listing hcollect
  have hentry : ⟨"rust", 2⟩ ∈ tagIndex docs := mem_tagIndex_iff.mpr (by decide)
  have hrust : Slug.clean "-Rust-" = "rust" := by decide +kernel
  have hempty : Slug.clean "?" = "" := by decide +kernel
  have hgo : Slug.clean "Go" = "go" := by decide
  refine ⟨hcollect, hentry, (hcounts _ hentry).1, ?_, ?_, ?_⟩
  · rw [(hwith "-Rust-").2, htags, hrust]
    decide
  · rw [(hwith "?").2, htags, hempty]
    decide
  · rw [← not_ne_iff, (hwith "Go").2, htags, hgo]
    decide

end DocSite
