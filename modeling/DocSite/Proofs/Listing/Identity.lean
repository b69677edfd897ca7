import DocSite.Proofs.Folder.Records
import DocSite.Proofs.Listing.Lookup
import Mathlib.Data.Option.Basic

/-!
# Which documents of a listing can be told apart

A listing takes its ids and slugs from the records as they are. Nothing is refused because it is
there already.

* `perm_map_of_collect`: what a document takes from its record occurs in a listing as often as among
  the records that are no drafts.
* `nodup_ids_of_folder`: the documents of a folder have different ids where the names of its pages
  are texts.
* `Document.permalink_eq_iff`: addresses are shared exactly where slugs are.
* `findBySlug_append_cons`: a document is found by its slug unless an earlier one has the same.
* `listing_identity` puts these together. Where the ids of a folder's pages are different, their
  slugs need not be (`listing_identity_of_folder`).
-/

namespace DocSite

/-! ### Records and their documents -/

namespace RawRecord

/-- Whether a record is listed: it is no draft. -/
def isListed (r : RawRecord) : Bool :=
  !r.draft.getD false

/-- The slug under which a record is listed: its cleaned slug, or its cleaned id where nothing is
left of the slug. -/
def listedSlug (r : RawRecord) : String :=
  (cleanName? r.slug).getD (Slug.clean (r.id.getD ""))

theorem id_of_normalize {r : RawRecord} {d : Document} (h : r.normalize = .ok d) :
    some d.id = r.id := by
  obtain ⟨id, title, ⟨hid, -⟩, -, rfl⟩ := normalize_eq_ok_iff.mp h
  exact hid.symm

theorem slug_of_normalize {r : RawRecord} {d : Document} (h : r.normalize = .ok d) :
    d.slug = r.listedSlug := by
  obtain ⟨id, title, ⟨hid, -⟩, -, rfl⟩ := normalize_eq_ok_iff.mp h
  rw [document, listedSlug, hid, Option.getD_some]

theorem draft_of_normalize {r : RawRecord} {d : Document} (h : r.normalize = .ok d) :
    (!d.draft) = r.isListed := by
  obtain ⟨id, title, -, -, rfl⟩ := normalize_eq_ok_iff.mp h
  rfl

end RawRecord

/-- What a document takes from its record occurs in a listing as often as among the records that are
no drafts. -/
theorem perm_map_of_collect {β : Type} {order : CategoryOrder} {records : List RawRecord}
    {docs : List Document} (h : collect order (.ok records) = .ok docs) {f : Document → β}
    {g : RawRecord → β} (hfg : ∀ r d, RawRecord.normalize r = .ok d → f d = g r) :
    (docs.map f).Perm ((records.filter RawRecord.isListed).map g) := by
  change collectRecords order records = .ok docs at h
  obtain ⟨all, hall, hdocs⟩ := bind_eq_ok_iff.mp h
  cases hdocs
  have heq : (all.filter (!·.draft)).map f = (records.filter RawRecord.isListed).map g := by
    have hforall := mapM_eq_ok_iff.mp hall
    clear h hall
    induction hforall with
    | nil => rfl
    | @cons r d records all hd _ ih =>
      rw [List.filter_cons, List.filter_cons, RawRecord.draft_of_normalize hd]
      cases r.isListed
      · exact ih
      · exact congrArg₂ List.cons (hfg r d hd) ih
  rw [← heq]
  exact (List.mergeSort_perm _ order.le).map f

/-- A listing has different ids where the records have that are no drafts. -/
theorem nodup_ids_of_collect {order : CategoryOrder} {records : List RawRecord}
    {docs : List Document} (h : collect order (.ok records) = .ok docs)
    (hids : ((records.filter RawRecord.isListed).map (·.id)).Nodup) :
    (docs.map (·.id)).Nodup := by
  rw [← (perm_map_of_collect h fun _ _ => RawRecord.id_of_normalize).nodup_iff] at hids
  have hdocs : ((docs.map (·.id)).map some).Nodup := by
    rw [List.map_map]
    exact hids
  exact hdocs.of_map some

/-- The documents of a folder have different ids where the names of its pages are texts. -/
theorem nodup_ids_of_folder {order : CategoryOrder} {docs : List Document}
    {read : List Char → Except FrontMatterFault FrontMatter}
    {refuses : List Bytes → Option PathFault} {disk : Disk} {root : Bytes} (hdisk : disk.Proper)
    (htext : Folder.HasTextNames disk root)
    (h : collect order (Folder.recordsWith read refuses disk root) = .ok docs) :
    (docs.map (·.id)).Nodup := by
  obtain ⟨records, hrecords, -⟩ := collect_eq_ok h
  rw [hrecords] at h
  have hids := Folder.nodup_ids hdisk htext hrecords
  exact nodup_ids_of_collect h (hids.sublist (List.filter_sublist.map _))

/-! ### Addresses -/

theorem Document.permalink_eq_iff {d e : Document} {route : String} :
    d.permalink route = e.permalink route ↔ d.slug = e.slug := by
  rw [permalink, permalink, String.ofList_inj, List.append_cancel_left_eq, List.cons.injEq,
    String.toList_inj]
  exact and_iff_right rfl

theorem nodup_permalinks_iff {docs : List Document} {route : String} :
    (docs.map (·.permalink route)).Nodup ↔ (docs.map (·.slug)).Nodup := by
  simp only [List.Nodup, List.pairwise_map, ne_eq, Document.permalink_eq_iff]

/-! ### Shadowing -/

/-- A document with a clean slug is found by it unless an earlier one has the same slug, and then
the first of these is. -/
theorem findBySlug_append_cons {before after : List Document} {d : Document}
    (hd : Slug.clean d.slug = d.slug) :
    findBySlug (before ++ d :: after) d.slug = some ((findBySlug before d.slug).getD d) := by
  rw [findBySlug, findBySlug, List.find?_append, hd]
  cases before.find? (·.slug == d.slug) with
  | some e => rfl
  | none => simp

/-- Documents with different ids are all found by their slugs exactly when these differ too. -/
theorem forall_findBySlug_iff_nodup {docs : List Document}
    (hclean : ∀ d ∈ docs, Slug.clean d.slug = d.slug) (hids : (docs.map (·.id)).Nodup) :
    (∀ d ∈ docs, findBySlug docs d.slug = some d) ↔ (docs.map (·.slug)).Nodup := by
  constructor
  · intro hfound
    refine (List.Nodup.of_map _ hids).map_on fun d hd e he hslug => ?_
    exact Option.some.inj ((hfound d hd).symm.trans (hslug ▸ hfound e he))
  · intro hnodup d hd
    obtain ⟨e, he⟩ := exists_findBySlug_eq_some hd (hclean d hd)
    have hfirst : IsFirstWithSlug docs d.slug e := hclean d hd ▸ findBySlug_eq_some_iff.mp he
    rw [he, hfirst.eq_of_nodup hd hnodup]

/-- **Ids, slugs and addresses of a listing.** The ids of a listing are different where those of the
records are that are no drafts, as they always are for a folder of a proper disk in which the names
of pages are texts. The slugs of a listing are different exactly where those of these records are,
and so are its addresses below any route. A document is found by its slug unless an earlier one has
the same slug, which is found instead; where ids are different, all documents are found exactly when
all slugs are different. -/
theorem listing_identity {order : CategoryOrder} {fetched : Fetched} {docs : List Document}
    (h : collect order fetched = .ok docs) :
    (∃ records, fetched = .ok records ∧
      (((records.filter RawRecord.isListed).map (·.id)).Nodup → (docs.map (·.id)).Nodup) ∧
      ((docs.map (·.slug)).Nodup ↔
        ((records.filter RawRecord.isListed).map RawRecord.listedSlug).Nodup)) ∧
      (∀ read refuses d root, d.Proper → Folder.HasTextNames d root →
        fetched = Folder.recordsWith read refuses d root → (docs.map (·.id)).Nodup) ∧
      (∀ route, (docs.map (·.permalink route)).Nodup ↔ (docs.map (·.slug)).Nodup) ∧
      (∀ before d after, docs = before ++ d :: after →
        findBySlug docs d.slug = some ((findBySlug before d.slug).getD d)) ∧
      ((docs.map (·.id)).Nodup →
        ((∀ d ∈ docs, findBySlug docs d.slug = some d) ↔ (docs.map (·.slug)).Nodup)) := by
  obtain ⟨records, rfl, -⟩ := collect_eq_ok h
  have hslugs := (perm_map_of_collect h fun _ _ => RawRecord.slug_of_normalize).nodup_iff
  have hclean : ∀ d ∈ docs, Slug.clean d.slug = d.slug := fun d hd => clean_slug_of_mem_collect h hd
  refine ⟨⟨records, rfl, nodup_ids_of_collect h, hslugs⟩,
    fun read refuses d root hd htext hfolder => ?_, fun route => ?_,
    fun before d after hdocs => ?_, forall_findBySlug_iff_nodup hclean⟩
  · rw [hfolder] at h
    exact nodup_ids_of_folder hd htext h
  · exact nodup_permalinks_iff
  · subst hdocs
    exact findBySlug_append_cons (hclean d (List.mem_append_right _ List.mem_cons_self))

/-- A folder with two pages whose names clean to one slug: their ids differ, and the slug finds the
first of them only. -/
theorem listing_identity_of_folder :
    let page : ByteArray := "---\nx\n---\n".toUTF8
    let entries : List (Bytes × FileTree) := [("a b.md", .file page), ("a-b.md", .file page)]
    let disk : Disk := { tree := .directory [("content", .directory entries)] }
    let read : List Char → Except FrontMatterFault FrontMatter := fun _ => .ok { title := some "T" }
    let refuses : List Bytes → Option PathFault := fun _ => none
    let docs : List Document := [{ id := "a b.md", slug := "a-b", title := "T" },
      { id := "a-b.md", slug := "a-b", title := "T" }]
    disk.Proper ∧ Folder.HasTextNames disk "content" ∧
      collect .default (Folder.recordsWith read refuses disk "content") = .ok docs ∧
      (docs.map (·.id)).Nodup ∧ ¬ (docs.map (·.slug)).Nodup := by
  intro page entries disk read refuses docs
  have hnodup : (entries.map Prod.fst).Nodup := by decide
  have hentries : FileTree.Proper (.directory entries) :=
    .directory hnodup (by decide) (by simp [entries, FileTree.Proper.file])
  have hproper : disk.Proper := Folder.proper_content hentries
  have hroot : disk.resolve "content" = .ok (.directory entries) := Folder.resolve_content rfl
  have htext : Folder.HasTextNames disk "content" := by
    intro entries' hroot' names content hpage
    cases hroot.symm.trans hroot'
    have hnames := hpage.get?_eq
    rw [FileTree.get?_directory_eq_some_iff hnodup] at hnames
    simp [entries] at hnames
    rcases hnames with ⟨rfl, -⟩ | ⟨rfl, -⟩
    all_goals exact List.forall_mem_singleton.mpr (Text.isText_iff.mpr ⟨_, rfl⟩)
  have hfound : Folder.found (Folder.openFault? refuses "content") (.directory entries) =
      [([Text.utf8 "a b.md"], .file page), ([Text.utf8 "a-b.md"], .file page)] := by
    have hle : Text.utf8 "a b.md" ≤ Text.utf8 "a-b.md" := by decide
    have hlisted : Folder.openFault? refuses "content" [] = none := by decide
    have hnames : Folder.isPageName "a b.md" ∧ Folder.isPageName "a-b.md" := by decide
    simp [Folder.found, FileTree.walk, FileTree.walkEntries, entries, hlisted,
      List.mergeSort_of_pairwise, hle, hnames]
  have hrecords : Folder.recordsWith read refuses disk "content" = .ok
      [{ id := some "a b.md", slug := some "a b", title := some "T", body := some "" },
        { id := some "a-b.md", slug := some "a-b", title := some "T", body := some "" }] := by
    rw [Folder.recordsWith_of_directory hroot, hfound]
    decide +kernel
  have hcollect : collect .default (Folder.recordsWith read refuses disk "content") = .ok docs := by
    rw [hrecords]
    have hdocs : List.mapM RawRecord.normalize
      [{ id := some "a b.md", slug := some "a b", title := some "T", body := some "" },
        { id := some "a-b.md", slug := some "a-b", title := some "T", body := some "" }] =
          .ok docs := by decide +kernel
    exact collect_ok_of_pairwise hdocs (by decide +kernel)
  obtain ⟨-, hfolder, -⟩ := listing_identity hcollect
  exact ⟨hproper, htext, hcollect, hfolder read refuses disk "content" hproper htext rfl, by decide⟩

/-- Records whose ids clean to one slug: both are listed below one address, where the first of them
is found. -/
theorem listing_shares_slugs :
    let records : List RawRecord := [{ id := some "a b", title := some "A" },
      { id := some "a-b", title := some "B" }]
    let first : Document := { id := "a b", slug := "a-b", title := "A" }
    let second : Document := { id := "a-b", slug := "a-b", title := "B" }
    let docs : List Document := [first, second]
    collect .default (.ok records) = .ok docs ∧ (docs.map (·.id)).Nodup ∧
      ¬ (docs.map (·.slug)).Nodup ∧ (∀ route, ¬ (docs.map (·.permalink route)).Nodup) ∧
      findBySlug docs second.slug = some first ∧ first ≠ second := by
  intro records first second docs
  have hdocs : records.mapM RawRecord.normalize = .ok docs := by decide +kernel
  have hslugs : ¬ (docs.map (·.slug)).Nodup := by decide
  exact ⟨collect_ok_of_pairwise hdocs (by decide +kernel), by decide, hslugs,
    fun route => nodup_permalinks_iff.not.mpr hslugs, by decide +kernel, by decide⟩

end DocSite
