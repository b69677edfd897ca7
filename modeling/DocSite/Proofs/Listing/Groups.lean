import DocSite.Answer.Text
import DocSite.Proofs.Catalog.Collect
import DocSite.Proofs.Listing.Pages
import Mathlib.Data.List.Nodup

/-!
# Groups on a page

A page prints its documents in stretches of one group, each below a line with the group's name
(`page_eq_flatMap_lines`).

* `rank_eq_rank_iff`: categories share a rank only if they are the same, or if each of them is
  `uncategorized` or not listed (`CategoryOrder.IsFallback`).
* `count_le_one_of_pairwise`: in a list in the order of ranks without equal neighbours, an element
  whose rank is its own stands once. So only names that share the rank of `uncategorized` can be
  printed twice.
* `page_groups` says this of every page of every listing, and `page_repeats_fallback_group` is a
  page on which a name stands twice.
-/

namespace DocSite

/-! ### Ranks of groups -/

namespace CategoryOrder

/-- A name that is ranked as `uncategorized`: this name itself and every name that is not listed. -/
def IsFallback (o : CategoryOrder) (name : String) : Prop :=
  name = uncategorized ∨ name ∉ o.names

theorem rank_some (o : CategoryOrder) (name : String) :
    o.rank (some name) = o.names.idxOf (if name ∈ o.names then name else uncategorized) := by
  split_ifs with h
  · exact rank_of_mem h
  · exact rank_of_not_mem h

/-- A document has the rank of its group. -/
theorem rank_category (o : CategoryOrder) (d : Document) :
    o.rank d.category = o.rank (some d.group) := by
  rw [Document.group]
  cases d.category with
  | some c => rfl
  | none =>
    rw [rank_none, Option.getD_none, rank_some]
    split_ifs <;> rfl

theorem rank_of_isFallback {o : CategoryOrder} {name : String} (h : o.IsFallback name) :
    o.rank (some name) = o.names.idxOf uncategorized := by
  rw [rank_some]
  rcases h with rfl | h
  · split_ifs <;> rfl
  · rw [if_neg h]

/-- Only names that fall back share a rank. -/
theorem rank_eq_rank_iff {o : CategoryOrder} {a b : String} :
    o.rank (some a) = o.rank (some b) ↔ a = b ∨ o.IsFallback a ∧ o.IsFallback b := by
  constructor
  · intro h
    rw [rank_some, rank_some] at h
    split_ifs at h with ha hb hb
    · exact .inl ((List.idxOf_inj ha).mp h)
    · obtain rfl := (List.idxOf_inj ha).mp h
      exact .inr ⟨.inl rfl, .inr hb⟩
    · obtain rfl := (List.idxOf_inj hb).mp h.symm
      exact .inr ⟨.inr ha, .inl rfl⟩
    · exact .inr ⟨.inr ha, .inr hb⟩
  · rintro (rfl | ⟨ha, hb⟩)
    · rfl
    · rw [rank_of_isFallback ha, rank_of_isFallback hb]

/-- The names that fall back are those of the rank of `uncategorized`. -/
theorem isFallback_iff {o : CategoryOrder} {name : String} :
    o.IsFallback name ↔ o.rank (some name) = o.names.idxOf uncategorized := by
  refine ⟨rank_of_isFallback, fun h => ?_⟩
  rw [← rank_of_isFallback (.inl rfl)] at h
  rcases rank_eq_rank_iff.mp h with rfl | ⟨hname, -⟩
  · exact .inl rfl
  · exact hname

theorem rank_le_of_le {o : CategoryOrder} {a b : Document} (h : o.le a b) :
    o.rank a.category ≤ o.rank b.category := by
  rcases keyLT_or_keyEq_of_le h with (hlt | ⟨heq, -⟩) | ⟨⟨heq, -⟩, -⟩
  · exact Nat.le_of_lt hlt
  · exact Nat.le_of_eq heq
  · exact Nat.le_of_eq heq

end CategoryOrder

/-! ### Stretches of one group -/

/-- Documents that stand together below the name of their group. -/
structure GroupRun where
  group : String
  documents : List Document

namespace GroupRun

/-- Stretches with a document in front, which joins the first one if it has its group. -/
def cons (d : Document) : List GroupRun → List GroupRun
  | [] => [⟨d.group, [d]⟩]
  | r :: more =>
    if d.group = r.group then ⟨r.group, d :: r.documents⟩ :: more else ⟨d.group, [d]⟩ :: r :: more

/-- The longest stretches of documents of one group. -/
def ofDocuments (docs : List Document) : List GroupRun :=
  docs.foldr cons []

/-- Stretches cut a list of documents where the group changes, and only there. -/
structure Cut (docs : List Document) (runs : List GroupRun) : Prop where
  flatMap_documents : runs.flatMap (·.documents) = docs
  ne_nil : ∀ r ∈ runs, r.documents ≠ []
  group_eq : ∀ r ∈ runs, ∀ d ∈ r.documents, d.group = r.group
  changes : (runs.map (·.group)).IsChain (· ≠ ·)

theorem Cut.cons {docs : List Document} {runs : List GroupRun} (h : Cut docs runs)
    (d : Document) : Cut (d :: docs) (cons d runs) := by
  obtain ⟨hflat, hne, hgroup, hchain⟩ := h
  cases runs with
  | nil =>
    subst hflat
    exact ⟨rfl, by simp [GroupRun.cons], by simp [GroupRun.cons], by simp [GroupRun.cons]⟩
  | cons r more =>
    obtain ⟨hr, hmore⟩ := List.forall_mem_cons.mp hgroup
    rw [GroupRun.cons]
    split_ifs with hd
    · refine ⟨?_, ?_, ?_, hchain⟩
      · rw [← hflat]
        rfl
      · exact List.forall_mem_cons.mpr ⟨List.cons_ne_nil _ _, (List.forall_mem_cons.mp hne).2⟩
      · exact List.forall_mem_cons.mpr ⟨List.forall_mem_cons.mpr ⟨hd, hr⟩, hmore⟩
    · refine ⟨?_, ?_, ?_, List.isChain_cons_cons.mpr ⟨hd, hchain⟩⟩
      · rw [← hflat]
        rfl
      · exact List.forall_mem_cons.mpr ⟨List.cons_ne_nil _ _, hne⟩
      · exact List.forall_mem_cons.mpr ⟨by simp, hgroup⟩

theorem cut_ofDocuments (docs : List Document) : Cut docs (ofDocuments docs) := by
  induction docs with
  | nil => exact ⟨rfl, by simp [ofDocuments], by simp [ofDocuments], by simp [ofDocuments]⟩
  | cons d rest ih => exact ih.cons d

/-- The group of a stretch is that of one of its documents. -/
theorem Cut.exists_mem {docs : List Document} {runs : List GroupRun} (h : Cut docs runs)
    {r : GroupRun} (hr : r ∈ runs) : ∃ d ∈ r.documents, d ∈ docs ∧ d.group = r.group := by
  obtain ⟨d, hd⟩ := List.exists_mem_of_ne_nil _ (h.ne_nil r hr)
  refine ⟨d, hd, ?_, h.group_eq r hr d hd⟩
  rw [← h.flatMap_documents]
  exact List.mem_flatMap.mpr ⟨r, hr, hd⟩

/-- Where documents are in the order of ranks, so are the groups of their stretches. -/
theorem Cut.pairwise_rank {order : CategoryOrder} {docs : List Document} {runs : List GroupRun}
    (h : Cut docs runs)
    (hsorted : docs.Pairwise fun a b => order.rank a.category ≤ order.rank b.category) :
    (runs.map (·.group)).Pairwise fun a b => order.rank (some a) ≤ order.rank (some b) := by
  rw [← h.flatMap_documents, List.pairwise_flatMap] at hsorted
  rw [List.pairwise_map]
  refine hsorted.2.imp_of_mem fun {r s} hr hs hrs => ?_
  obtain ⟨d, hd, -, hdr⟩ := h.exists_mem hr
  obtain ⟨e, he, -, hes⟩ := h.exists_mem hs
  rw [← hdr, ← hes, ← CategoryOrder.rank_category, ← CategoryOrder.rank_category]
  exact hrs d hd e he

end GroupRun

/-! ### Lines of a page -/

namespace Answer

/-- The line of a document below its group. -/
def entryLine (route : String) (d : Document) : String :=
  "  " ++ entry route d

/-- The lines of a stretch: the name of the group and the documents. -/
def runLines (route : String) (r : GroupRun) : List String :=
  r.group :: r.documents.map (entryLine route)

/-- The lines of stretches below a line with the name of a group, which is not repeated. -/
def linesBelow (route : String) (group : Option String) : List GroupRun → List String
  | [] => []
  | r :: more =>
    (if group = some r.group then r.documents.map (entryLine route) else runLines route r) ++
      more.flatMap (runLines route)

theorem linesBelow_none (route : String) (runs : List GroupRun) :
    linesBelow route none runs = runs.flatMap (runLines route) := by
  cases runs <;> rfl

theorem linesBelow_cons (route : String) (group : Option String) (d : Document)
    (runs : List GroupRun) :
    linesBelow route group (GroupRun.cons d runs) =
      (if group = some d.group then [] else [d.group]) ++
        entryLine route d :: linesBelow route (some d.group) runs := by
  cases runs with
  | nil => by_cases hd : group = some d.group <;> simp [GroupRun.cons, linesBelow, runLines, hd]
  | cons r more =>
    rw [GroupRun.cons]
    split_ifs with hr hd hd
    · simp [linesBelow, hd, hr]
    · simp [linesBelow, runLines, hd, ← hr]
    · simp [linesBelow, hd, hr]
    · simp [linesBelow, runLines, hd, hr]

theorem groupedEntries_eq (route : String) (group : Option String) (docs : List Document) :
    groupedEntries route group docs = linesBelow route group (GroupRun.ofDocuments docs) := by
  induction docs generalizing group with
  | nil => rfl
  | cons d rest ih =>
    have hcons : GroupRun.ofDocuments (d :: rest) = GroupRun.cons d (GroupRun.ofDocuments rest) :=
      rfl
    rw [hcons, linesBelow_cons, ← ih, groupedEntries]
    by_cases hd : group = some d.group <;> simp [hd, entryLine]

/-- A page prints each stretch below the name of its group. -/
theorem page_eq_flatMap_lines (route : String) (p : Page) :
    page route p = (GroupRun.ofDocuments p.items).flatMap (runLines route) ++
      ["-- page " ++ toString p.number ++ "/" ++ toString p.totalPages ++ " --"] := by
  rw [page, groupedEntries_eq, linesBelow_none]

end Answer

/-! ### Names that are printed twice -/

/-- In a list in the order of ranks without equal neighbours, an element whose rank is its own
stands once: after it all ranks are greater. -/
theorem count_le_one_of_pairwise {α : Type} [DecidableEq α] {rank : α → ℕ} {l : List α} {a : α}
    (hsorted : l.Pairwise fun x y => rank x ≤ rank y) (hchain : l.IsChain (· ≠ ·))
    (hunique : ∀ b ∈ l, rank b = rank a → b = a) : l.count a ≤ 1 := by
  induction l with
  | nil => exact Nat.zero_le _
  | cons x rest ih =>
    obtain ⟨hx, hrest⟩ := List.pairwise_cons.mp hsorted
    obtain ⟨-, hunique⟩ := List.forall_mem_cons.mp hunique
    by_cases hxa : x = a
    · subst hxa
      have hnot : x ∉ rest := by
        cases rest with
        | nil => exact List.not_mem_nil
        | cons y more =>
          obtain ⟨hxy, -⟩ := List.isChain_cons_cons.mp hchain
          obtain ⟨hymore, -⟩ := List.pairwise_cons.mp hrest
          have hlt : rank x < rank y := Nat.lt_of_le_of_ne (hx y List.mem_cons_self)
            fun heq => hxy (hunique y List.mem_cons_self heq.symm).symm
          intro hmem
          rcases List.mem_cons.mp hmem with rfl | hmem
          · exact hxy rfl
          · exact absurd (hymore x hmem) (Nat.not_le_of_lt hlt)
      have hcount : (x :: rest).count x = 1 := by
        rw [List.count_cons_self, List.count_eq_zero_of_not_mem hnot]
      exact Nat.le_of_eq hcount
    · rw [List.count_cons_of_ne hxa]
      exact ih hrest (List.isChain_of_isChain_cons hchain) hunique

/-- Where a property is never won again once it is lost, the elements that have it come first. -/
theorem filter_append_filter_not {α : Type} {p : α → Bool} {l : List α}
    (h : l.Pairwise fun x y => p y → p x) : l.filter p ++ l.filter (!p ·) = l := by
  induction l with
  | nil => rfl
  | cons x rest ih =>
    obtain ⟨hx, hrest⟩ := List.pairwise_cons.mp h
    cases hpx : p x
    · have hnone : ∀ y ∈ rest, p y = false := fun y hy =>
        eq_false_of_ne_true fun hpy => Bool.false_ne_true (hpx.symm.trans (hx y hy hpy))
      have hfilter : rest.filter p = [] :=
        List.filter_eq_nil_iff.mpr fun y hy => ne_true_of_eq_false (hnone y hy)
      have hall : rest.filter (!p ·) = rest :=
        List.filter_eq_self.mpr fun y hy => by rw [hnone y hy]; rfl
      simp [hpx, hfilter, hall]
    · simp [hpx, ih hrest]

/-- In a list in the order of ranks the elements of one rank stand together. -/
theorem exists_append_of_pairwise {α : Type} {rank : α → ℕ} {l : List α}
    (hsorted : l.Pairwise fun x y => rank x ≤ rank y) (k : ℕ) :
    ∃ before block after, l = before ++ block ++ after ∧ (∀ x ∈ block, rank x = k) ∧
      ∀ x ∈ before ++ after, rank x ≠ k := by
  let below : α → Bool := fun x => rank x < k
  let upto : α → Bool := fun x => rank x ≤ k
  have hbelow : l.filter below ++ l.filter (!below ·) = l :=
    filter_append_filter_not (hsorted.imp fun hxy hy => by
      simp only [below, decide_eq_true_eq] at hy ⊢
      omega)
  have hupto : (l.filter (!below ·)).filter upto ++ (l.filter (!below ·)).filter (!upto ·) =
      l.filter (!below ·) :=
    filter_append_filter_not ((hsorted.filter _).imp fun hxy hy => by
      simp only [upto, decide_eq_true_eq] at hy ⊢
      omega)
  refine ⟨l.filter below, (l.filter (!below ·)).filter upto, (l.filter (!below ·)).filter (!upto ·),
    ?_, ?_, ?_⟩
  · rw [List.append_assoc, hupto, hbelow]
  · intro x hx
    simp only [below, upto, List.mem_filter, Bool.not_eq_true', decide_eq_false_iff_not,
      decide_eq_true_eq] at hx
    omega
  · intro x hx
    simp only [below, upto, List.mem_append, List.mem_filter, Bool.not_eq_true',
      decide_eq_false_iff_not, decide_eq_true_eq] at hx
    omega

/-- **Groups on a page.** For every list of category names, every listing and every page of it: the
page prints its documents in stretches that are cut where the group changes, each below the name of
its group. A listed name other than `uncategorized` is printed once at most, because its documents
stand together. The documents that are ranked as `uncategorized` stand together too; if all of them
have one group, no name is printed twice. -/
theorem page_groups {names : List String} {fetched : Fetched} {docs : List Document}
    (h : collect (.ofNames names) fetched = .ok docs) {pageSize : ℕ} {pages : List Page}
    (hpages : paginate docs pageSize = .ok pages) {p : Page} (hp : p ∈ pages) :
    let order := CategoryOrder.ofNames names
    let runs := GroupRun.ofDocuments p.items
    let printed := runs.map (·.group)
    (∀ route, Answer.page route p = runs.flatMap (Answer.runLines route) ++
        ["-- page " ++ toString p.number ++ "/" ++ toString p.totalPages ++ " --"]) ∧
      GroupRun.Cut p.items runs ∧
      (∀ name ∈ names.map Slug.clean, name ≠ uncategorized → printed.count name ≤ 1) ∧
      (∃ before block after, p.items = before ++ block ++ after ∧
        (∀ d ∈ block, order.IsFallback d.group) ∧
        ∀ d ∈ before ++ after, ¬ order.IsFallback d.group) ∧
      ((∀ d ∈ p.items, ∀ e ∈ p.items, order.IsFallback d.group → order.IsFallback e.group →
        d.group = e.group) → printed.Nodup) := by
  intro order runs printed
  have hcut : GroupRun.Cut p.items runs := GroupRun.cut_ofDocuments p.items
  have hsorted : p.items.Pairwise fun a b => order.rank a.category ≤ order.rank b.category := by
    obtain ⟨records, -, rfl⟩ := collect_eq_ok h
    have hpairwise := List.pairwise_mergeSort order.le_trans order.le_total
      (records.filterMap RawRecord.listed?)
    exact (hpairwise.sublist (infix_of_mem_paginate hpages hp).sublist).imp
      CategoryOrder.rank_le_of_le
  have hprinted := hcut.pairwise_rank hsorted
  refine ⟨fun route => Answer.page_eq_flatMap_lines route p, hcut, fun name hname hne => ?_, ?_,
    fun hone => ?_⟩
  · -- The rank of a listed name is its own.
    refine count_le_one_of_pairwise hprinted hcut.changes fun b _ hb => ?_
    rcases CategoryOrder.rank_eq_rank_iff.mp hb with heq | ⟨-, hname' | hname'⟩
    · exact heq
    · exact absurd hname' hne
    · exact absurd hname hname'
  · obtain ⟨before, block, after, hitems, hblock, hrest⟩ :=
      exists_append_of_pairwise hsorted (order.names.idxOf uncategorized)
    refine ⟨before, block, after, hitems, fun d hd => ?_, fun d hd => ?_⟩
    · rw [CategoryOrder.isFallback_iff, ← CategoryOrder.rank_category]
      exact hblock d hd
    · rw [CategoryOrder.isFallback_iff, ← CategoryOrder.rank_category]
      exact hrest d hd
  · rw [List.nodup_iff_count_le_one]
    intro name
    by_cases hmem : name ∈ printed
    · refine count_le_one_of_pairwise hprinted hcut.changes fun b hb hrank => ?_
      rcases CategoryOrder.rank_eq_rank_iff.mp hrank with heq | ⟨hbfall, hfall⟩
      · exact heq
      · obtain ⟨r, hr, rfl⟩ := List.mem_map.mp hb
        obtain ⟨s, hs, rfl⟩ := List.mem_map.mp hmem
        obtain ⟨d, -, hd, hdr⟩ := hcut.exists_mem hr
        obtain ⟨e, -, he, hes⟩ := hcut.exists_mem hs
        rw [← hdr, ← hes]
        exact hone d hd e he (hdr ▸ hbfall) (hes ▸ hfall)
    · rw [List.count_eq_zero_of_not_mem hmem]
      exact Nat.zero_le _

/-- The first of two pages, with two documents of one listed category. -/
theorem page_groups_of_first_page :
    let names := ["Misc", "batteries"]
    let records : List RawRecord := [{ id := some "a", title := some "A", category := some "misc" },
      { id := some "b", title := some "B", category := some "Misc" },
      { id := some "c", title := some "A", category := some "Batteries" },
      { id := some "d", title := some "A" }]
    let first : List Document := [{ id := "a", slug := "a", title := "A", category := some "misc" },
      { id := "b", slug := "b", title := "B", category := some "misc" },
      { id := "c", slug := "c", title := "A", category := some "batteries" }]
    let docs : List Document := first ++ [{ id := "d", slug := "d", title := "A" }]
    collect (.ofNames names) (.ok records) = .ok docs ∧
      paginate docs 3 = .ok [⟨1, 2, first⟩, ⟨2, 2, docs.drop 3⟩] ∧
      ((GroupRun.ofDocuments first).map (·.group)).count "misc" ≤ 1 := by
  intro names records first docs
  have hrecords : records.mapM RawRecord.normalize = .ok docs := by decide
  have hcollect : collect (.ofNames names) (.ok records) = .ok docs :=
    collect_ok_of_pairwise hrecords (by decide)
  have hpages : paginate docs 3 = .ok [⟨1, 2, first⟩, ⟨2, 2, docs.drop 3⟩] := by
    simp [paginate, chunks, docs, first]
  have hgroups := page_groups hcollect hpages (p := ⟨1, 2, first⟩) List.mem_cons_self
  exact ⟨hcollect, hpages, hgroups.2.2.1 "misc" (by decide) (by decide)⟩

/-- A page on which the same name stands twice: the documents of a category that is not listed and
those without a category have one rank and are mixed by their titles. -/
theorem page_repeats_fallback_group :
    let records : List RawRecord := [{ id := some "a", title := some "A", category := some "misc" },
      { id := some "b", title := some "B" },
      { id := some "c", title := some "C", category := some "misc" }]
    let docs : List Document := [{ id := "a", slug := "a", title := "A", category := some "misc" },
      { id := "b", slug := "b", title := "B" },
      { id := "c", slug := "c", title := "C", category := some "misc" }]
    collect (.ofNames CategoryOrder.defaultNames) (.ok records) = .ok docs ∧
      paginate docs 20 = .ok [⟨1, 1, docs⟩] ∧
      Answer.page "/docs" ⟨1, 1, docs⟩ =
        ["misc", "  A                                        /docs/a",
          "uncategorized", "  B                                        /docs/b",
          "misc", "  C                                        /docs/c", "-- page 1/1 --"] ∧
      ¬ ((GroupRun.ofDocuments docs).map (·.group)).Nodup := by
  intro records docs
  have hrecords : records.mapM RawRecord.normalize = .ok docs := by decide
  refine ⟨collect_ok_of_pairwise hrecords (by decide +kernel), ?_, by decide,
    by decide⟩
  simp [paginate, chunks, docs]

end DocSite
