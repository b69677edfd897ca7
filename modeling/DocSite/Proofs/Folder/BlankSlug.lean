import DocSite.Proofs.Folder.Records
import DocSite.Proofs.Folder.Slugs
import DocSite.Proofs.Slug.Runs

/-!
# Slugs that clean to nothing

A page can be without a slug in two ways: its front matter sets none, or one of which cleaning
leaves nothing. Either way another slug is made from its path, but not from the same part of it.

* `normalize_pageRecord_of_blank_slug`: where nothing is left of a slug, the whole path is cleaned.
  Where there is no slug, the path without the extension is, and the whole path only if that gives
  nothing.
* `clean_ne_of_isStemOf`: these slugs are different if the latter is not empty, because the
  extension is a part of the former.
* `blank_slug_of_page` puts this together, and `blank_slug_keeps_extension` shows a page whose slug
  has the extension in it.
-/

namespace DocSite.Folder

open FileTree (IsName)
open Slug (clean)

/-- The extension shows in the slug of a path. -/
theorem clean_ne_of_isStemOf {stem path : String} (h : IsStemOf stem path) (hne : clean stem ≠ "") :
    clean path ≠ clean stem := by
  have halnum : Text.isAlphanumeric '.' = false := by decide +kernel
  have hdot (extension : String) (hextension : clean extension ≠ "") :
      clean (stem ++ ("." ++ extension)) ≠ clean stem := by
    rw [← String.append_assoc]
    exact Slug.clean_append_ne halnum hne hextension
  rcases isStemOf_utf8_iff.mp h with rfl | rfl
  · exact hdot "md" (by decide)
  · exact hdot "mdx" (by decide)

section

variable {path stem : String} {fields : FrontMatter} {body : List Char}

/-- A page of whose slug nothing is left is like the page without a slug, but for the slug that is
made from its whole path. -/
theorem normalize_pageRecord_of_blank_slug {s : String} (hslug : fields.slug = some s)
    (hblank : clean s = "") :
    (pageRecord path fields body).normalize =
      (pageRecord path { fields with slug := none } body).normalize.map
        fun doc => { doc with slug := clean path } := by
  have hrecord : pageRecord path fields body =
      { pageRecord path { fields with slug := none } body with slug := some s } := by
    rw [pageRecord, hslug, Option.getD_some, pageRecord]
  rw [hrecord, RawRecord.normalize_withSlug rfl, cleanName?_of_some, if_pos hblank,
    Option.getD_none]

/-- Both pages give the same document exactly if nothing is left of the path without the
extension. -/
theorem normalize_pageRecord_eq_ok_iff_of_blank_slug (hstem : IsStemOf stem path) {s : String}
    (hslug : fields.slug = some s) (hblank : clean s = "") {doc : Document}
    (hdoc : (pageRecord path { fields with slug := none } body).normalize = .ok doc) :
    (pageRecord path fields body).normalize = .ok doc ↔ clean stem = "" := by
  have hslug' := slug_of_normalize_pageRecord_of_no_slug hstem rfl hdoc
  -- The documents are equal but for the slug, so it is the slugs that are compared.
  rw [normalize_pageRecord_of_blank_slug hslug hblank, hdoc]
  show Except.ok { doc with slug := clean path } = Except.ok doc ↔ clean stem = ""
  rw [Except.ok.injEq]
  constructor
  · intro heq
    by_contra hne
    rw [if_neg hne] at hslug'
    have hclean : clean path = doc.slug := congrArg Document.slug heq
    exact clean_ne_of_isStemOf hstem hne (hclean.trans hslug')
  · intro hempty
    rw [if_pos hempty] at hslug'
    rw [← hslug']

end

/-- A page with a title is accepted. -/
theorem exists_normalize_pageRecord {path title : String} {fields : FrontMatter} {body : List Char}
    (hpath : path.toList.all Text.isBlank = false) (htitle : fields.title = some title)
    (hne : title.toList.all Text.isBlank = false) :
    ∃ doc, (pageRecord path fields body).normalize = .ok doc :=
  ⟨_, RawRecord.normalize_eq_ok_iff.mpr ⟨path, title, ⟨rfl, hpath⟩, ⟨htitle, hne⟩, rfl⟩⟩

/-- A page with a slug of which nothing is left. -/
def slashesPage : ByteArray :=
  "---\ntitle: T\nslug: ///\n---\n".toUTF8

/-- The page without the line of its slug. -/
def barePage : ByteArray :=
  "---\ntitle: T\n---\n".toUTF8

theorem reads_slashesPage :
    Reads FrontMatter.ofText slashesPage { title := some "T", slug := some "///" } [] :=
  ⟨"---\ntitle: T\nslug: ///\n---\n", by decide, by decide +kernel⟩

theorem reads_barePage : Reads FrontMatter.ofText barePage { title := some "T" } [] :=
  ⟨"---\ntitle: T\n---\n", by decide, by decide +kernel⟩

/-! ### Pages with and without a slug -/

/-- **A slug of which nothing is left is replaced by that of the whole path.** Let two folders have
a page at the same path with the same front matter and the same text, but that one front matter sets
a slug that cleans to nothing and the other one sets none. Then both pages are refused with the same
error, or they give documents that are equal but for their slugs. The slug of the one is made from
the path with its extension, the slug of the other from the path without it, and from the path with
it only if that gives nothing. The documents are equal exactly in this case. -/
theorem blank_slug_of_page (read : List Char → Except FrontMatterFault FrontMatter)
    {refuses refuses' : List Bytes → Option PathFault} {d d' : Disk} {root root' : Bytes}
    {entries entries' : List (Bytes × FileTree)}
    {records records' : List RawRecord} (hd : d.Proper) (hd' : d'.Proper)
    (hroot : d.resolve root = .ok (.directory entries))
    (hroot' : d'.resolve root' = .ok (.directory entries'))
    (hrecords : recordsWith read refuses d root = .ok records)
    (hrecords' : recordsWith read refuses' d' root' = .ok records')
    {above : List Bytes} {name stem : Bytes} {content content' : ByteArray}
    (hpage : IsPage (.directory entries) (above ++ [name]) content)
    (hpage' : IsPage (.directory entries') (above ++ [name]) content') (hstem : IsStemOf stem name)
    {fields : FrontMatter} {body : List Char} {s : String} (hslug : fields.slug = some s)
    (hblank : clean s = "") (hread : Reads read content fields body)
    (hread' : Reads read content' { fields with slug := none } body) :
    ∃ r ∈ records, ∃ r' ∈ records',
      r.id = some ("/".intercalate ((above ++ [name]).map Text.lossy)) ∧
      r'.id = some ("/".intercalate ((above ++ [name]).map Text.lossy)) ∧
      r.normalize = r'.normalize.map (fun doc =>
        { doc with slug := clean ("/".intercalate ((above ++ [name]).map Text.lossy)) }) ∧
      ∀ doc, r'.normalize = .ok doc →
        doc.slug = (if clean ("/".intercalate ((above ++ [stem]).map Text.lossy)) = "" then
          clean ("/".intercalate ((above ++ [name]).map Text.lossy)) else
          clean ("/".intercalate ((above ++ [stem]).map Text.lossy))) ∧
        (r.normalize = .ok doc ↔
          clean ("/".intercalate ((above ++ [stem]).map Text.lossy)) = "") := by
  have hmem := (mem_of_recordsWith_eq_ok hd hroot hrecords).mpr
    ⟨_, content, fields, body, hpage, hread, rfl⟩
  have hmem' := (mem_of_recordsWith_eq_ok hd' hroot' hrecords').mpr
    ⟨_, content', _, body, hpage', hread', rfl⟩
  have hpath := hstem.pageId above
  exact ⟨_, hmem, _, hmem', rfl, rfl, normalize_pageRecord_of_blank_slug hslug hblank,
    fun doc hdoc => ⟨slug_of_normalize_pageRecord_of_no_slug hpath rfl hdoc,
      normalize_pageRecord_eq_ok_iff_of_blank_slug hpath hslug hblank hdoc⟩⟩

/-- A page of whose name nothing is left either, so that its slug is made from the extension. -/
theorem blank_slug_of_page_of_hyphens :
    (oneFile "--.md" slashesPage).Proper ∧ (oneFile "--.md" barePage).Proper ∧ clean "///" = "" ∧
      ∃ r r' doc, records (oneFile "--.md" slashesPage) "content" = .ok [r] ∧
        records (oneFile "--.md" barePage) "content" = .ok [r'] ∧ r.normalize = .ok doc ∧
        r'.normalize = .ok doc ∧ doc.slug = "md" := by
  have hproper (content : ByteArray) : (oneFile "--.md" content).Proper :=
    proper_oneFile (by decide)
  have hname : isPageName "--.md" := by decide
  have hopen : openFault? (fun _ => none) "content" [Text.utf8 "--.md"] = none := by decide
  have hstem : IsStemOf (Text.utf8 "--") (Text.utf8 "--.md") :=
    isStemOf_utf8_iff.mpr (.inl (by decide))
  have hpage (content : ByteArray) : IsPage (.directory [(Text.utf8 "--.md", .file content)])
      ([] ++ [Text.utf8 "--.md"]) content :=
    isPage_oneFile (by decide) hstem
  have hrecords := records_oneFile hname hopen reads_slashesPage
  have hrecords' := records_oneFile hname hopen reads_barePage
  obtain ⟨r, hr, r', hr', -, -, -, hdocs⟩ := blank_slug_of_page FrontMatter.ofText (hproper _)
    (hproper _) resolve_oneFile resolve_oneFile hrecords hrecords' (hpage _) (hpage _) hstem rfl
    (by decide +kernel) reads_slashesPage reads_barePage
  obtain rfl := List.mem_singleton.mp hr
  obtain rfl := List.mem_singleton.mp hr'
  obtain ⟨doc, hdoc⟩ : ∃ doc, (pageRecord (Text.lossy (Text.utf8 "--.md"))
      { title := some "T" } []).normalize = .ok doc :=
    exists_normalize_pageRecord (by decide) rfl (by decide)
  obtain ⟨hslug, hequal⟩ := hdocs doc hdoc
  refine ⟨hproper _, hproper _, by decide +kernel, _, _, doc, hrecords, hrecords',
    hequal.mpr (by decide +kernel), hdoc, ?_⟩
  rw [hslug]
  decide +kernel

/-- A page whose slug is that of its path with the extension, because nothing is left of the slug
that it sets. Without that line its slug is that of its path without the extension. -/
theorem blank_slug_keeps_extension :
    clean "///" = "" ∧
      ∃ r r' doc doc', records (oneFile "a.md" slashesPage) "content" = .ok [r] ∧
        records (oneFile "a.md" barePage) "content" = .ok [r'] ∧
        r = { r' with slug := some "///" } ∧ r'.slug = some "a" ∧
        r.normalize = .ok doc ∧ r'.normalize = .ok doc' ∧ doc.slug = "a-md" ∧ doc'.slug = "a" ∧
        doc ≠ doc' := by
  have hname : isPageName "a.md" := by decide
  have hopen : openFault? (fun _ => none) "content" [Text.utf8 "a.md"] = none := by decide
  have hstem : withoutExtension "a.md" = "a" :=
    withoutExtension_eq (isStemOf_utf8_iff.mpr (.inl (by decide)))
  have hdocument (fields : FrontMatter) (htitle : fields.title = some "T") :
      ∃ doc, (pageRecord "a.md" fields []).normalize = .ok doc :=
    exists_normalize_pageRecord (by decide) htitle (by decide)
  have hrecords := records_oneFile hname hopen reads_slashesPage
  have hrecords' := records_oneFile hname hopen reads_barePage
  rw [Text.lossy_utf8] at hrecords hrecords'
  obtain ⟨doc, hdoc⟩ := hdocument { title := some "T", slug := some "///" } rfl
  obtain ⟨doc', hdoc'⟩ := hdocument { title := some "T" } rfl
  have hslug : doc.slug = "a-md" := by
    rw [RawRecord.slug_eq_of_normalize hdoc rfl, (id_of_normalize_pageRecord hdoc).1]
    decide +kernel
  have hslug' : doc'.slug = "a" := by
    rw [RawRecord.slug_eq_clean_of_normalize hdoc' (congrArg some hstem) (by decide)]
    decide
  refine ⟨by decide +kernel, _, _, doc, doc', hrecords, hrecords', rfl, congrArg some hstem, hdoc,
    hdoc', hslug, hslug', ?_⟩
  rintro rfl
  exact absurd (hslug.symm.trans hslug') (by decide)

end DocSite.Folder
