import DocSite.Proofs.Catalog.Collect
import DocSite.Proofs.Folder.Records

/-!
# Why a folder has no listing

A folder is read in two passes. The first one walks through it and stops where something cannot be
read (`StopsAt`); the second one makes documents of the records and stops at the first page without
a title (`IsUntitled`). So what cannot be read is reported before any title that is missing,
wherever the two stand (`Fault`).

* `recordsWith_eq_error_iff` and `mapM_normalize_eq_error_iff_of_pages` say where the passes stop.
* `exists_document_of_page`: a listing has all pages of the folder but drafts.
* `collect_folder` puts these together.
* `no_listing_beside_deep_directory`: with a directory that cannot be listed there is no listing,
  although nothing is wrong with any page.
-/

namespace DocSite.Folder

variable {read : List Char → Except FrontMatterFault FrontMatter}
  {refuses : List Bytes → Option PathFault} {d : Disk} {root : Bytes}
  {entries : List (Bytes × FileTree)} {names : List Bytes} {content : ByteArray} {e : SiteError}

/-! ### Pages without a title -/

/-- A page that is read and has no title, or a blank one. -/
def IsUntitled (read : List Char → Except FrontMatterFault FrontMatter) (content : ByteArray) :
    Prop :=
  ∃ fields body, Reads read content fields body ∧
    ∀ title, fields.title = some title → title.toList.all Text.isBlank

/-- The id of a page is not blank: it ends with an extension. -/
theorem IsPage.isBlank_pageId {t : FileTree} (h : IsPage t names content) :
    (pageId names).toList.all Text.isBlank = false := by
  obtain ⟨stem, hstem⟩ := h.exists_isStemOf_pageId
  have hm : 'm' ∈ (pageId names).toList := by
    rcases isStemOf_utf8_iff.mp hstem with heq | heq <;> simp [heq]
  rw [List.all_eq_false]
  exact ⟨'m', hm, by decide⟩

/-- The record of a page is refused exactly for its title. -/
theorem normalize_page_eq_error_iff {t : FileTree} (h : IsPage t names content)
    {fields : FrontMatter} {body : List Char} (hread : Reads read content fields body) :
    (pageRecord (pageId names) fields body).normalize = .error e ↔
      IsUntitled read content ∧ e = .missingField (pageId names) .title := by
  rw [RawRecord.normalize_eq_error_iff rfl h.isBlank_pageId]
  refine and_congr_left fun _ => ⟨fun htitle => ⟨fields, body, hread, htitle⟩, ?_⟩
  rintro ⟨fields', body', hread', htitle⟩
  obtain ⟨rfl, rfl⟩ := hread.unique hread'
  exact htitle

/-- The second pass stops at the first page without a title. -/
theorem mapM_normalize_eq_error_iff_of_pages (hd : d.Proper)
    (hroot : d.resolve root = .ok (.directory entries)) {records : List RawRecord}
    (hrecords : recordsWith read refuses d root = .ok records) :
    records.mapM RawRecord.normalize = .error e ↔
      ∃ names content, IsPage (.directory entries) names content ∧ IsUntitled read content ∧
        e = .missingField (pageId names) .title ∧
        ∀ names' content', IsPage (.directory entries) names' content' → Precedes names' names →
          ¬ IsUntitled read content' := by
  obtain ⟨pages, hpages, hmapM⟩ := exists_pages_of_recordsWith hd hroot hrecords
  -- Both passes succeed on a page, or only the second one fails.
  have hpage : ∀ names content, IsPage (.directory entries) names content → ∀ e,
      (record read refuses root names content >>= RawRecord.normalize) = .error e ↔
        IsUntitled read content ∧ e = .missingField (pageId names) .title := by
    intro names content h e
    obtain ⟨r, -, hr⟩ := exists_eq_ok_of_mem hmapM ((hpages.mem_iff names content).mpr h)
    obtain ⟨-, fields, body, hread, rfl⟩ := record_eq_ok_iff.mp hr
    rw [hr]
    exact normalize_page_eq_error_iff h hread
  have hok : ∀ names content, IsPage (.directory entries) names content →
      ((∃ doc, (record read refuses root names content >>= RawRecord.normalize) = .ok doc) ↔
        ¬ IsUntitled read content) := by
    intro names content h
    rw [exists_eq_ok_iff]
    constructor
    · exact fun hok htitle => hok _ ((hpage names content h _).mpr ⟨htitle, rfl⟩)
    · exact fun htitle e he => htitle ((hpage names content h e).mp he).1
  rw [mapM_eq_mapM_bind hmapM,
    mapM_eq_error_iff_of_pairwise (fun _ _ h => h.asymm) hpages.sorted, Prod.exists]
  simp only [hpages.mem_iff, Prod.forall]
  refine exists_congr fun names => exists_congr fun content => and_congr_right fun h => ?_
  rw [hpage names content h e, and_assoc]
  refine and_congr_right fun _ => and_congr_right fun _ => ?_
  refine forall_congr' fun names' => forall_congr' fun content' => ?_
  exact forall_congr' fun h' => imp_congr_right fun _ => hok names' content' h'

/-! ### What a listing has -/

/-- If a folder has a listing, each of its pages is a document, which is listed unless it is a
draft. -/
theorem exists_document_of_page (hd : d.Proper) (hroot : d.resolve root = .ok (.directory entries))
    {order : CategoryOrder} {docs : List Document}
    (hdocs : collect order (recordsWith read refuses d root) = .ok docs)
    (hpage : IsPage (.directory entries) names content) :
    ∃ fields body doc, Reads read content fields body ∧
      (pageRecord (pageId names) fields body).normalize = .ok doc ∧ doc.id = pageId names ∧
      (doc ∈ docs ↔ fields.draft.getD false = false) := by
  obtain ⟨records, hrecords, hlisting⟩ := collect_eq_ok hdocs
  obtain ⟨pages, hpages, hmapM⟩ := exists_pages_of_recordsWith hd hroot hrecords
  obtain ⟨r, hr, hrecord⟩ := exists_eq_ok_of_mem hmapM ((hpages.mem_iff names content).mpr hpage)
  obtain ⟨-, fields, body, hread, rfl⟩ := record_eq_ok_iff.mp hrecord
  cases hnormalize : (pageRecord (pageId names) fields body).normalize with
  | ok doc =>
    obtain ⟨hid, hdraft⟩ := id_of_normalize_pageRecord hnormalize
    refine ⟨fields, body, doc, hread, hnormalize, hid, ?_⟩
    rw [hlisting, List.mem_mergeSort, List.mem_filterMap]
    simp only [RawRecord.listed?_eq_some_iff]
    constructor
    · rintro ⟨-, -, -, hlisted⟩
      exact hdraft.symm.trans hlisted
    · exact fun hlisted => ⟨_, hr, hnormalize, hdraft.trans hlisted⟩
  | error e =>
    obtain ⟨e', hfault⟩ := exists_firstFault_of_mem hr hnormalize
    rw [← collect_eq_error_iff order, ← hrecords, hdocs] at hfault
    cases hfault

/-! ### The fault of a folder -/

/-- Why a folder has no listing: there is no directory; or the walk through it stops; or it does
not, but a page has no title, and all pages before it have. -/
inductive Fault (read : List Char → Except FrontMatterFault FrontMatter)
    (refuses : List Bytes → Option PathFault) (d : Disk) (root : Bytes) : SiteError → Prop
  | noDirectory (hroot : d.isDirectory root = false) :
      Fault read refuses d root (.source (.noDirectory (Text.lossy root)))
  | stopped {entries : List (Bytes × FileTree)} {names : List Bytes} {e : SiteError}
      (hroot : d.resolve root = .ok (.directory entries))
      (hstop : StopsAt read refuses root (.directory entries) names e)
      (hfirst : ∀ names' e', Precedes names' names →
        ¬ StopsAt read refuses root (.directory entries) names' e') :
      Fault read refuses d root e
  | untitled {entries : List (Bytes × FileTree)} {names : List Bytes} {content : ByteArray}
      (hroot : d.resolve root = .ok (.directory entries))
      (hnone : ∀ names' e', ¬ StopsAt read refuses root (.directory entries) names' e')
      (hpage : IsPage (.directory entries) names content) (htitle : IsUntitled read content)
      (hfirst : ∀ names' content', IsPage (.directory entries) names' content' →
        Precedes names' names → ¬ IsUntitled read content') :
      Fault read refuses d root
        (.missingField ("/".intercalate (names.map Text.lossy)) .title)

theorem recordsWith_of_not_directory (hroot : d.isDirectory root = false) :
    recordsWith read refuses d root = .error (.source (.noDirectory (Text.lossy root))) := by
  have hnone := Disk.isDirectory_eq_false_iff.mp hroot
  unfold recordsWith
  split
  · rename_i entries hresolve
    exact absurd hresolve (hnone entries)
  · rfl

theorem exists_directory (hroot : d.isDirectory root) :
    ∃ entries, d.resolve root = .ok (.directory entries) := by
  by_contra hnone
  rw [not_exists, ← Disk.isDirectory_eq_false_iff, hroot] at hnone
  cases hnone

/-- A folder yields no listing exactly for its fault. -/
theorem collect_eq_error_iff_fault (hd : d.Proper) (order : CategoryOrder) :
    collect order (recordsWith read refuses d root) = .error e ↔ Fault read refuses d root e := by
  constructor
  · intro h
    cases hdirectory : d.isDirectory root with
    | false =>
      rw [recordsWith_of_not_directory hdirectory] at h
      cases h
      exact .noDirectory hdirectory
    | true =>
      obtain ⟨entries, hroot⟩ := exists_directory hdirectory
      cases hrecords : recordsWith read refuses d root with
      | error e' =>
        rw [hrecords] at h
        cases h
        obtain ⟨names, hstop, hfirst⟩ := (recordsWith_eq_error_iff hd hroot).mp hrecords
        exact .stopped hroot hstop hfirst
      | ok records =>
        -- The first pass does not stop, so the fault is one of the second.
        rw [hrecords, DocSite.collect_eq_error_iff, ← mapM_normalize_eq_error_iff,
          mapM_normalize_eq_error_iff_of_pages hd hroot hrecords] at h
        obtain ⟨names, content, hpage, htitle, rfl, hfirst⟩ := h
        have hnone := (exists_recordsWith_eq_ok_iff hd hroot).mp ⟨records, hrecords⟩
        exact .untitled hroot hnone hpage htitle hfirst
  · intro h
    cases h with
    | noDirectory hdirectory =>
      rw [recordsWith_of_not_directory hdirectory]
      rfl
    | stopped hroot hstop hfirst =>
      rw [(recordsWith_eq_error_iff hd hroot).mpr ⟨_, hstop, hfirst⟩]
      rfl
    | untitled hroot hnone hpage htitle hfirst =>
      obtain ⟨records, hrecords⟩ := (exists_recordsWith_eq_ok_iff hd hroot).mpr hnone
      rw [hrecords, DocSite.collect_eq_error_iff, ← mapM_normalize_eq_error_iff,
        mapM_normalize_eq_error_iff_of_pages hd hroot hrecords]
      exact ⟨_, _, hpage, htitle, rfl, hfirst⟩

/-- A folder yields no listing exactly if it is no directory, or if the walk stops somewhere, or if
one of its pages has no title. -/
theorem exists_collect_eq_error_iff (hd : d.Proper) (order : CategoryOrder) :
    (∃ e, collect order (recordsWith read refuses d root) = .error e) ↔
      d.isDirectory root = false ∨ ∃ entries, d.resolve root = .ok (.directory entries) ∧
        ((∃ names e, StopsAt read refuses root (.directory entries) names e) ∨
          ∃ names content,
            IsPage (.directory entries) names content ∧ IsUntitled read content) := by
  constructor
  · rintro ⟨e, h⟩
    cases (collect_eq_error_iff_fault hd order).mp h with
    | noDirectory hdirectory => exact .inl hdirectory
    | stopped hroot hstop _ => exact .inr ⟨_, hroot, .inl ⟨_, e, hstop⟩⟩
    | untitled hroot _ hpage htitle _ => exact .inr ⟨_, hroot, .inr ⟨_, _, hpage, htitle⟩⟩
  · rintro (hdirectory | ⟨entries, hroot, hfault⟩)
    · exact ⟨_, (collect_eq_error_iff_fault hd order).mpr (.noDirectory hdirectory)⟩
    · cases hdocs : collect order (recordsWith read refuses d root) with
      | error e => exact ⟨e, rfl⟩
      | ok docs =>
        -- With a listing nothing stops the walk and each page is a document.
        rcases hfault with ⟨names, e, hstop⟩ | ⟨names, content, hpage, htitle⟩
        · obtain ⟨records, hrecords, -⟩ := collect_eq_ok hdocs
          exact absurd hstop
            ((exists_recordsWith_eq_ok_iff hd hroot).mp ⟨records, hrecords⟩ names e)
        · obtain ⟨fields, body, doc, hread, hnormalize, -⟩ :=
            exists_document_of_page hd hroot hdocs hpage
          have herror := (normalize_page_eq_error_iff hpage hread).mpr ⟨htitle, rfl⟩
          rw [hnormalize] at herror
          cases herror

/-- **A folder has a complete listing or one fault.** It has no listing exactly if it is no
directory, or if something below it cannot be read, or if some page, draft or not, has no title.
What cannot be read is a directory that cannot be listed, or a page that cannot be opened, is no
text or has front matter that is refused. The error is the one of the folder's fault: a missing
directory is reported first, then what comes first in the order of paths of all that cannot be read,
even if an earlier page has no title, and last the first page without a title. If there is a
listing, all pages are read and it has each of them that is no draft. -/
theorem collect_folder (hd : d.Proper) (order : CategoryOrder) :
    ((∃ e, collect order (recordsWith read refuses d root) = .error e) ↔
        d.isDirectory root = false ∨ ∃ entries, d.resolve root = .ok (.directory entries) ∧
          ((∃ names e, StopsAt read refuses root (.directory entries) names e) ∨
            ∃ names content, IsPage (.directory entries) names content ∧
              IsUntitled read content)) ∧
      (∀ e, collect order (recordsWith read refuses d root) = .error e ↔
        Fault read refuses d root e) ∧
      ∀ docs, collect order (recordsWith read refuses d root) = .ok docs →
        ∀ entries, d.resolve root = .ok (.directory entries) →
          ∀ names content, IsPage (.directory entries) names content →
            ∃ fields body doc, Reads read content fields body ∧
              (pageRecord (pageId names) fields body).normalize = .ok doc ∧
              doc.id = "/".intercalate (names.map Text.lossy) ∧
              (doc ∈ docs ↔ fields.draft.getD false = false) :=
  ⟨exists_collect_eq_error_iff hd order, fun _ => collect_eq_error_iff_fault hd order,
    fun _ hdocs _ hroot _ _ hpage => exists_document_of_page hd hroot hdocs hpage⟩

/-- A folder whose first page has no title, whose second one has front matter that is refused and
whose third one is no text: the fault is that of the second page. -/
theorem collect_folder_of_untitled_before_refused :
    let untitled : ByteArray := "x".toUTF8
    let refused : ByteArray := "---\nx\n---\n".toUTF8
    let entries : List (Bytes × FileTree) :=
      [("c.md", .file ⟨#[0xff]⟩), ("b.md", .file refused), ("a.md", .file untitled)]
    let disk : Disk := { tree := .directory [("content", .directory entries)] }
    let read : List Char → Except FrontMatterFault FrontMatter := fun _ => .error .malformed
    let refuses : List Bytes → Option PathFault := fun _ => none
    disk.Proper ∧ IsPage (.directory entries) [Text.utf8 "a.md"] untitled ∧
      IsUntitled read untitled ∧
      StopsAt read refuses "content" (.directory entries) [Text.utf8 "c.md"]
        (.source (.cannotRead "content/c.md" .invalidText)) ∧
      collect .default (recordsWith read refuses disk "content") =
        .error (.frontMatter (some "b.md") .malformed) := by
  intro untitled refused entries disk read refuses
  have hnodup : (entries.map Prod.fst).Nodup := by decide
  have hentries : FileTree.Proper (.directory entries) :=
    .directory hnodup (by decide) (by simp [entries, FileTree.Proper.file])
  have hdisk : disk.Proper := proper_content hentries
  have hroot : disk.resolve "content" = .ok (.directory entries) := resolve_content rfl
  have hget (names : List Bytes) (u : FileTree) :
      (FileTree.directory entries).get? names = some u ↔
        names = [] ∧ u = .directory entries ∨
          names = [Text.utf8 "c.md"] ∧ u = .file ⟨#[0xff]⟩ ∨
          names = [Text.utf8 "b.md"] ∧ u = .file refused ∨
          names = [Text.utf8 "a.md"] ∧ u = .file untitled := by
    rw [FileTree.get?_directory_eq_some_iff hnodup]
    simp [entries, FileTree.get?_file_eq_some_iff]
  have hreads : Reads read untitled {} ['x'] := ⟨"x", by decide, by decide⟩
  have huntitled : IsUntitled read untitled := by
    refine ⟨{}, ['x'], hreads, fun title htitle => ?_⟩
    cases htitle
  have hpage {name : Bytes} {content : ByteArray}
      (hget : (FileTree.directory entries).get? [name] = some (.file content))
      (hname : isPageName name) : IsPage (.directory entries) [name] content :=
    isPage_iff.mpr ⟨hget, hname⟩
  have ha : IsPage (.directory entries) [Text.utf8 "a.md"] untitled :=
    hpage ((hget _ _).mpr (by simp)) (by decide)
  have hb : StopsAt read refuses "content" (.directory entries) [Text.utf8 "b.md"]
      (.frontMatter (some "b.md") .malformed) := by
    have hb' : IsPage (.directory entries) [Text.utf8 "b.md"] refused :=
      hpage ((hget _ _).mpr (by simp)) (by decide)
    have htext : String.fromUTF8? refused = some "---\nx\n---\n" := by decide
    have hid : "/".intercalate ([Text.utf8 "b.md"].map Text.lossy) = "b.md" := by decide
    exact hid ▸ .refused hb' (by decide) htext (by decide +kernel)
  have hc : StopsAt read refuses "content" (.directory entries) [Text.utf8 "c.md"]
      (.source (.cannotRead "content/c.md" .invalidText)) := by
    have hc' : IsPage (.directory entries) [Text.utf8 "c.md"] ⟨#[0xff]⟩ :=
      hpage ((hget _ _).mpr (by simp)) (by decide)
    have hpath : Text.lossy (path "content" [Text.utf8 "c.md"]) = "content/c.md" := by
      decide
    exact hpath ▸ .notText hc' (by decide) (by decide)
  refine ⟨hdisk, ha, huntitled, hc, ?_⟩
  have hfolder : ∀ e, collect .default (recordsWith read refuses disk "content") = .error e ↔
      Fault read refuses disk "content" e := (collect_folder hdisk .default).2.1
  refine (hfolder _).mpr (.stopped hroot hb ?_)
  -- Only the folder and the page without a title come before the page that is refused.
  intro names e hbefore hstop
  rw [precedes_iff_lt] at hbefore
  obtain ⟨u, hu⟩ := hstop.get?_eq
  rcases (hget _ _).mp hu with ⟨rfl, -⟩ | ⟨rfl, -⟩ | ⟨rfl, -⟩ | ⟨rfl, -⟩
  · exact not_stopsAt_of_directory rfl (by decide) e hstop
  · exact absurd hbefore (by decide)
  · exact absurd hbefore (by decide)
  · exact not_stopsAt_of_page ha (by decide) hreads e hstop

/-- A folder whose page is read and has a title has no listing where its own path is so long that
the directory beside the page cannot be listed. -/
theorem no_listing_beside_deep_directory :
    deepDisk.Proper ∧ deepDisk.isDirectory (dotted 1975) ∧
      deepDisk.resolve (dotted 1975) = .ok (.directory deepEntries) ∧
      (∀ names content, IsPage (.directory deepEntries) names content →
        (∃ fields body, Reads FrontMatter.ofText content fields body) ∧
          ¬ IsUntitled FrontMatter.ofText content) ∧
      ∀ order, collect order (Folder.records deepDisk (dotted 1975)) =
        .error (.source (.cannotWalk (Text.lossy (dotted 1975))
          (Text.lossy (path (dotted 1975) [deepName])) .nameTooLong)) := by
  refine ⟨proper_deepDisk, ?_, resolve_deepDisk, ?_, ?_⟩
  · rw [Disk.isDirectory, resolve_deepDisk]
  · intro names content h
    obtain ⟨-, rfl⟩ := isPage_deepEntries_iff.mp h
    refine ⟨⟨_, _, reads_titledPage⟩, ?_⟩
    rintro ⟨fields, body, hread, htitle⟩
    obtain ⟨rfl, -⟩ := reads_titledPage.unique hread
    exact absurd (htitle "A" rfl) (by decide)
  · intro order
    rw [records_deepDisk]
    rfl

end DocSite.Folder
