import DocSite.Proofs.Folder.Pages
import Mathlib.Data.Set.List

/-!
# The walk through a folder

The walk meets the pages of a folder in the order of their paths and ends at the first place where
something cannot be read (`StopsAt`): a directory that cannot be listed, or a page that cannot be
opened, is no text or has front matter that is refused. What is below a directory that cannot be
listed is not met, but this changes nothing, since the directory comes before it.

* `mem_found_iff`: what is met stands where the walk comes to.
* `recordsWith_eq_error_iff`: a folder has no records exactly for the first place at which the walk
  stops.
* `exists_pages_of_recordsWith`: where there are records, they are those of all pages in the order
  of their paths (`IsPageList`).
-/

namespace DocSite.Folder

open FileTree (IsReached Met)

variable {read : List Char → Except FrontMatterFault FrontMatter}
  {refuses : List Bytes → Option PathFault} {d : Disk} {root : Bytes}
  {entries : List (Bytes × FileTree)} {t : FileTree} {names : List Bytes} {content : ByteArray}
  {e : SiteError} {records : List RawRecord}

/-! ### What is met -/

/-- A page stands at some names, or a directory that cannot be listed. -/
inductive IsFound (fault? : List Bytes → Option PathFault) (t : FileTree) (names : List Bytes) :
    Met → Prop
  | page {content : ByteArray} (h : IsPage t names content) : IsFound fault? t names (.file content)
  | unlisted {entries : List (Bytes × FileTree)} {fault : PathFault}
      (hget : t.get? names = some (.directory entries)) (hfault : fault? names = some fault) :
      IsFound fault? t names (.unlisted fault)

theorem mem_found_iff {fault? : List Bytes → Option PathFault} (ht : t.Proper) {m : Met} :
    (names, m) ∈ found fault? t ↔ IsFound fault? t names m ∧ IsReached fault? names := by
  rw [found, List.mem_filter, ht.mem_walk_iff, and_right_comm]
  refine and_congr_left fun _ => ?_
  cases m with
  | file content =>
    constructor
    · exact fun hpage => .page (isPage_iff.mpr hpage)
    · rintro (hpage | -)
      exact isPage_iff.mp hpage
  | unlisted fault =>
    constructor
    · rintro ⟨⟨⟨entries, hget⟩, hfault⟩, -⟩
      exact .unlisted hget hfault
    · rintro (- | ⟨hget, hfault⟩)
      exact ⟨⟨⟨_, hget⟩, hfault⟩, rfl⟩

theorem pairwise_found {fault? : List Bytes → Option PathFault} (ht : t.Proper) :
    (found fault? t).Pairwise fun f g => Precedes f.1 g.1 :=
  ht.pairwise_walk.sublist List.filter_sublist

/-! ### Where the walk stops -/

/-- Why the pages of a folder cannot be read at some names: a directory cannot be listed, or a page
cannot be opened, is no text or has front matter that is refused. -/
inductive StopsAt (read : List Char → Except FrontMatterFault FrontMatter)
    (refuses : List Bytes → Option PathFault) (root : Bytes) (t : FileTree) (names : List Bytes) :
    SiteError → Prop
  | unlisted {entries : List (Bytes × FileTree)} {fault : PathFault}
      (hget : t.get? names = some (.directory entries))
      (hfault : openFault? refuses root names = some fault) :
      StopsAt read refuses root t names
        (.source (.cannotWalk (Text.lossy root) (Text.lossy (path root names)) fault))
  | unopened {content : ByteArray} {fault : PathFault} (hpage : IsPage t names content)
      (hfault : openFault? refuses root names = some fault) :
      StopsAt read refuses root t names
        (.source (.cannotRead (Text.lossy (path root names)) fault))
  | notText {content : ByteArray} (hpage : IsPage t names content)
      (hopen : openFault? refuses root names = none) (htext : String.fromUTF8? content = none) :
      StopsAt read refuses root t names
        (.source (.cannotRead (Text.lossy (path root names)) .invalidText))
  | refused {content : ByteArray} {text : String} {fault : FrontMatterFault}
      (hpage : IsPage t names content) (hopen : openFault? refuses root names = none)
      (htext : String.fromUTF8? content = some text)
      (hfault : FrontMatter.readWith read text.toList = .error fault) :
      StopsAt read refuses root t names
        (.frontMatter (some ("/".intercalate (names.map Text.lossy))) fault)

theorem StopsAt.of_record (hpage : IsPage t names content)
    (h : record read refuses root names content = .error e) :
    StopsAt read refuses root t names e := by
  -- A page is opened first, then decoded, and then its front matter is read.
  rw [record] at h
  split at h
  · rename_i fault hfault
    cases h
    exact .unopened hpage hfault
  · rename_i hopen
    rw [FileTree.textOf] at h
    cases htext : String.fromUTF8? content with
    | none =>
      rw [htext] at h
      cases h
      exact .notText hpage hopen htext
    | some text =>
      rw [htext] at h
      simp only [recordOf] at h
      split at h
      · rename_i fault hfault
        cases h
        exact .refused hpage hopen htext hfault
      · cases h

/-- The walk stops where something is met that cannot be read. -/
theorem stopsAt_iff : StopsAt read refuses root t names e ↔
    ∃ m, IsFound (openFault? refuses root) t names m ∧
      recordMet read refuses root (names, m) = .error e := by
  constructor
  · intro h
    cases h with
    | unlisted hget hfault => exact ⟨_, .unlisted hget hfault, rfl⟩
    | unopened hpage hfault => exact ⟨_, .page hpage, by rw [recordMet, record, hfault]⟩
    | notText hpage hopen htext =>
      refine ⟨_, .page hpage, ?_⟩
      rw [recordMet, record, hopen]
      simp only [FileTree.textOf, htext]
    | refused hpage hopen htext hfault =>
      refine ⟨_, .page hpage, ?_⟩
      rw [recordMet, record, hopen]
      simp only [FileTree.textOf, htext, recordOf, hfault]
      rfl
  · rintro ⟨m, hfound, herror⟩
    cases hfound with
    | page hpage => exact .of_record hpage herror
    | unlisted hget hfault =>
      cases herror
      exact .unlisted hget hfault

variable (read) in
/-- Where the walk does not come to what stands in a directory, it stops above. -/
theorem isReached_or_exists_stopsAt {u : FileTree} (hget : t.get? names = some u) :
    IsReached (openFault? refuses root) names ∨
      ∃ above, Precedes above names ∧ IsReached (openFault? refuses root) above ∧
        ∃ e, StopsAt read refuses root t above e := by
  refine (FileTree.isReached_or_exists _ names).imp_right ?_
  rintro ⟨above, below, fault, rfl, hbelow, hreached, hfault⟩
  obtain ⟨entries, habove⟩ := FileTree.exists_directory_of_get?_append hbelow hget
  exact ⟨above, precedes_append hbelow, hreached, _, .unlisted habove hfault⟩

theorem StopsAt.get?_eq (h : StopsAt read refuses root t names e) : ∃ u, t.get? names = some u := by
  cases h with
  | unlisted hget _ => exact ⟨_, hget⟩
  | unopened hpage _ => exact ⟨_, hpage.get?_eq⟩
  | notText hpage _ _ => exact ⟨_, hpage.get?_eq⟩
  | refused hpage _ _ _ => exact ⟨_, hpage.get?_eq⟩

/-- Where the walk stops, or before, something is met that cannot be read. -/
theorem StopsAt.exists_mem_found (ht : t.Proper) (h : StopsAt read refuses root t names e) :
    ∃ f ∈ found (openFault? refuses root) t, (f.1 = names ∨ Precedes f.1 names) ∧
      ∃ e, recordMet read refuses root f = .error e := by
  have hmet {names : List Bytes} {e : SiteError} (h : StopsAt read refuses root t names e)
      (hreached : IsReached (openFault? refuses root) names) :
      ∃ m, (names, m) ∈ found (openFault? refuses root) t ∧
        recordMet read refuses root (names, m) = .error e := by
    obtain ⟨m, hfound, herror⟩ := stopsAt_iff.mp h
    exact ⟨m, (mem_found_iff ht).mpr ⟨hfound, hreached⟩, herror⟩
  obtain ⟨u, hget⟩ := h.get?_eq
  rcases isReached_or_exists_stopsAt read hget with hreached | habove
  · obtain ⟨m, hm, herror⟩ := hmet h hreached
    exact ⟨_, hm, .inl rfl, e, herror⟩
  · obtain ⟨above, hbefore, hreached, e', hstop⟩ := habove
    obtain ⟨m, hm, herror⟩ := hmet hstop hreached
    exact ⟨_, hm, .inr hbefore, e', herror⟩

/-! ### The records of a folder -/

theorem recordsWith_of_directory (hroot : d.resolve root = .ok (.directory entries)) :
    recordsWith read refuses d root =
      (found (openFault? refuses root) (.directory entries)).mapM
        (recordMet read refuses root) := by
  rw [recordsWith, hroot]

theorem exists_directory_of_recordsWith (h : recordsWith read refuses d root = .ok records) :
    ∃ entries, d.resolve root = .ok (.directory entries) := by
  rw [recordsWith] at h
  split at h
  · rename_i entries hroot
    exact ⟨entries, hroot⟩
  · cases h

/-- A folder has no records exactly for the first place at which the walk stops. -/
theorem recordsWith_eq_error_iff (hd : d.Proper)
    (hroot : d.resolve root = .ok (.directory entries)) :
    recordsWith read refuses d root = .error e ↔
      ∃ names, StopsAt read refuses root (.directory entries) names e ∧
        ∀ names' e', Precedes names' names →
          ¬ StopsAt read refuses root (.directory entries) names' e' := by
  have hproper := hd.resolve hroot
  rw [recordsWith_of_directory hroot,
    mapM_eq_error_iff_of_pairwise (fun _ _ h => h.asymm) (pairwise_found hproper), Prod.exists]
  constructor
  · rintro ⟨names, m, hm, herror, hfirst⟩
    refine ⟨names, stopsAt_iff.mpr ⟨m, ((mem_found_iff hproper).mp hm).1, herror⟩, ?_⟩
    intro names' e' hbefore hstop
    obtain ⟨f, hf, hle, e'', herror'⟩ := hstop.exists_mem_found hproper
    have hlt : Precedes f.1 names := by
      rcases hle with heq | hlt
      · exact heq ▸ hbefore
      · exact hlt.trans hbefore
    obtain ⟨r, hr⟩ := hfirst f hf hlt
    rw [herror'] at hr
    cases hr
  · rintro ⟨names, hstop, hfirst⟩
    obtain ⟨u, hget⟩ := hstop.get?_eq
    rcases isReached_or_exists_stopsAt read hget with hreached | habove
    · obtain ⟨m, hfound, herror⟩ := stopsAt_iff.mp hstop
      refine ⟨names, m, (mem_found_iff hproper).mpr ⟨hfound, hreached⟩, herror, ?_⟩
      rintro ⟨names', m'⟩ hm' hbefore
      rw [exists_eq_ok_iff]
      intro e' herror'
      exact hfirst names' e' hbefore
        (stopsAt_iff.mpr ⟨m', ((mem_found_iff hproper).mp hm').1, herror'⟩)
    · obtain ⟨above, hbefore, -, e', hstop'⟩ := habove
      exact absurd hstop' (hfirst above e' hbefore)

/-- A folder has records exactly if the walk does not stop. -/
theorem exists_recordsWith_eq_ok_iff (hd : d.Proper)
    (hroot : d.resolve root = .ok (.directory entries)) :
    (∃ records, recordsWith read refuses d root = .ok records) ↔
      ∀ names e, ¬ StopsAt read refuses root (.directory entries) names e := by
  have hproper := hd.resolve hroot
  rw [recordsWith_of_directory hroot]
  constructor
  · rintro ⟨records, hrecords⟩ names e hstop
    obtain ⟨f, hf, -, e', herror⟩ := hstop.exists_mem_found hproper
    obtain ⟨r, -, hr⟩ := exists_eq_ok_of_mem hrecords hf
    rw [herror] at hr
    cases hr
  · intro hnone
    refine exists_mapM_eq_ok ?_
    rintro ⟨names, m⟩ hm
    rw [exists_eq_ok_iff]
    intro e herror
    exact hnone names e (stopsAt_iff.mpr ⟨m, ((mem_found_iff hproper).mp hm).1, herror⟩)

/-- The walk does not stop at a page that is opened and read. -/
theorem not_stopsAt_of_page (hpage : IsPage t names content)
    (hopen : openFault? refuses root names = none) {fields : FrontMatter} {body : List Char}
    (hread : Reads read content fields body) (e : SiteError) :
    ¬ StopsAt read refuses root t names e := by
  rw [stopsAt_iff]
  rintro ⟨m, hfound, herror⟩
  cases hfound with
  | page hpage' =>
    obtain rfl := hpage'.content_unique hpage
    have hok := record_eq_ok_iff.mpr ⟨hopen, fields, body, hread, rfl⟩
    rw [recordMet, hok] at herror
    cases herror
  | unlisted hget _ =>
    rw [hpage.get?_eq] at hget
    cases hget

/-- The walk does not stop at a directory that can be listed. -/
theorem not_stopsAt_of_directory (hget : t.get? names = some (.directory entries))
    (hlisted : openFault? refuses root names = none) (e : SiteError) :
    ¬ StopsAt read refuses root t names e := by
  rw [stopsAt_iff]
  rintro ⟨m, hfound, -⟩
  cases hfound with
  | page hpage =>
    rw [hpage.get?_eq] at hget
    cases hget
  | unlisted _ hfault =>
    rw [hlisted] at hfault
    cases hfault

/-- The walk does not stop where every directory can be listed and every page can be read. -/
theorem not_stopsAt
    (hlisted : ∀ names entries, t.get? names = some (.directory entries) →
      openFault? refuses root names = none)
    (hreads : ∀ names content, IsPage t names content →
      openFault? refuses root names = none ∧ ∃ fields body, Reads read content fields body)
    (names : List Bytes) (e : SiteError) : ¬ StopsAt read refuses root t names e := by
  intro h
  obtain ⟨m, hfound, -⟩ := stopsAt_iff.mp h
  cases hfound with
  | page hpage =>
    obtain ⟨hopen, fields, body, hread⟩ := hreads _ _ hpage
    exact not_stopsAt_of_page hpage hopen hread e h
  | unlisted hget _ => exact not_stopsAt_of_directory hget (hlisted _ _ hget) e h

/-- All pages of a directory, in the order of their paths. -/
structure IsPageList (t : FileTree) (pages : List (List Bytes × ByteArray)) : Prop where
  mem_iff : ∀ names content, (names, content) ∈ pages ↔ IsPage t names content
  sorted : pages.Pairwise fun f g => Precedes f.1 g.1

/-- There is only one list of the pages, in whatever order a directory has its entries. -/
theorem IsPageList.unique {u : FileTree} {pages pages' : List (List Bytes × ByteArray)}
    (h : IsPageList t pages) (h' : IsPageList u pages')
    (hpages : ∀ names content, IsPage t names content ↔ IsPage u names content) :
    pages = pages' := by
  refine eq_of_pairwise_precedes h.sorted h'.sorted ?_
  rintro ⟨names, content⟩
  rw [h.mem_iff, h'.mem_iff, hpages]

/-- The records of a folder are those of all its pages. -/
theorem exists_pages_of_recordsWith (hd : d.Proper)
    (hroot : d.resolve root = .ok (.directory entries))
    (hrecords : recordsWith read refuses d root = .ok records) :
    ∃ pages, IsPageList (.directory entries) pages ∧
      pages.mapM (fun f => record read refuses root f.1 f.2) = .ok records := by
  have hproper := hd.resolve hroot
  have hnone := (exists_recordsWith_eq_ok_iff hd hroot).mp ⟨records, hrecords⟩
  rw [recordsWith_of_directory hroot] at hrecords
  -- The walk meets no directory that cannot be listed, so it comes to all pages.
  let met : List Bytes × ByteArray → List Bytes × Met := fun f => (f.1, .file f.2)
  have hmet : found (openFault? refuses root) (.directory entries) ∈ Set.range (List.map met) := by
    rw [Set.range_list_map]
    rintro ⟨names, m⟩ hm
    cases ((mem_found_iff hproper).mp hm).1 with
    | @page content hpage => exact ⟨(names, content), rfl⟩
    | unlisted hget hfault => exact absurd (.unlisted hget hfault) (hnone names _)
  obtain ⟨pages, hpages⟩ := hmet
  refine ⟨pages, ⟨fun names content => ?_, ?_⟩, ?_⟩
  · have hmem : (names, content) ∈ pages ↔
        (names, Met.file content) ∈ found (openFault? refuses root) (.directory entries) := by
      simp [← hpages, met]
    rw [hmem, mem_found_iff hproper]
    constructor
    · rintro ⟨hfound, -⟩
      cases hfound with
      | page hpage => exact hpage
    · intro hpage
      refine ⟨.page hpage, ?_⟩
      rcases isReached_or_exists_stopsAt read hpage.get?_eq with hreached | habove
      · exact hreached
      · obtain ⟨above, -, -, e, hstop⟩ := habove
        exact absurd hstop (hnone above e)
  · have hsorted : (found (openFault? refuses root) (.directory entries)).Pairwise
        fun f g => Precedes f.1 g.1 := pairwise_found hproper
    rw [← hpages, List.pairwise_map] at hsorted
    exact hsorted
  · rw [← hpages, mapM_eq_ok_iff, List.forall₂_map_left_iff] at hrecords
    exact mapM_eq_ok_iff.mpr hrecords

/-- A record of a folder is that of a page with what is read from it. -/
theorem mem_of_recordsWith_eq_ok (hd : d.Proper)
    (hroot : d.resolve root = .ok (.directory entries))
    (hrecords : recordsWith read refuses d root = .ok records) {r : RawRecord} :
    r ∈ records ↔ ∃ names content fields body, IsPage (.directory entries) names content ∧
      Reads read content fields body ∧ pageRecord (pageId names) fields body = r := by
  obtain ⟨pages, hpages, hmapM⟩ := exists_pages_of_recordsWith hd hroot hrecords
  rw [mem_of_mapM_eq_ok hmapM, Prod.exists]
  constructor
  · rintro ⟨names, content, hmem, hrecord⟩
    obtain ⟨-, fields, body, hread, hr⟩ := record_eq_ok_iff.mp hrecord
    exact ⟨names, content, fields, body, (hpages.mem_iff _ _).mp hmem, hread, hr⟩
  · rintro ⟨names, content, fields, body, hpage, hread, hr⟩
    have hmem := (hpages.mem_iff _ _).mpr hpage
    obtain ⟨q, -, hq⟩ := exists_eq_ok_of_mem hmapM hmem
    obtain ⟨hopen, -⟩ := record_eq_ok_iff.mp hq
    exact ⟨names, content, hmem, record_eq_ok_iff.mpr ⟨hopen, fields, body, hread, hr⟩⟩

end DocSite.Folder
