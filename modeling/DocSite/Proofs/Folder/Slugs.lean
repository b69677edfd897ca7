import DocSite.Proofs.Folder.Walk
import DocSite.Proofs.Record.Normalize
import DocSite.Proofs.Slug.Parts

/-!
# The slugs of pages

* `clean_pageId`: the slug of a path is joined from the slugs of the names on it.
* `slug_of_names`: so is the slug of a page whose front matter sets none, the last name being taken
  without its extension, and of any text with a separator of the same kind as the slash.
-/

namespace DocSite.Folder

open Slug (clean)
open Text (IsBoundary)

theorem isBoundary_slash : IsBoundary '/' := by
  constructor <;> decide +kernel

/-- The slug of a path has hyphens between the slugs of its names, where they are not empty. -/
theorem clean_pageId (names : List Bytes) :
    clean (pageId names) =
      "-".intercalate ((names.map fun n => clean (Text.lossy n)).filter (· ≠ "")) := by
  have hparts := Slug.clean_intercalate (by decide +kernel) isBoundary_slash (names.map Text.lossy)
  rw [List.map_map] at hparts
  exact hparts

/-- A page whose front matter sets no slug has that of its path without the extension, or that of
its whole path if the former is empty. -/
theorem slug_of_normalize_pageRecord_of_no_slug {path stem : String} (hstem : IsStemOf stem path)
    {fields : FrontMatter} (hslug : fields.slug = none) {body : List Char} {doc : Document}
    (hdoc : (pageRecord path fields body).normalize = .ok doc) :
    doc.slug = if clean stem = "" then clean path else clean stem := by
  have hraw : (pageRecord path fields body).slug = some stem := by
    rw [pageRecord, hslug, Option.getD_none, withoutExtension_eq hstem]
  rw [RawRecord.slug_eq_of_normalize hdoc hraw, (id_of_normalize_pageRecord hdoc).1]

theorem slug_of_normalize_pageRecord {above : List Bytes} {name stem : Bytes}
    (hstem : IsStemOf stem name) {fields : FrontMatter} (hslug : fields.slug = none)
    {body : List Char} {doc : Document}
    (hdoc : (pageRecord (pageId (above ++ [name])) fields body).normalize = .ok doc)
    (hne : clean (pageId (above ++ [stem])) ≠ "") : doc.slug = clean (pageId (above ++ [stem])) :=
  (slug_of_normalize_pageRecord_of_no_slug (hstem.pageId above) hslug hdoc).trans (if_neg hne)

/-- **Slugs are made part by part.** A character that is no letter or digit, nor cased or
case-ignorable, parts a text: its slug is that of the text before it, a hyphen and that of the text
after it, or one of them if the other is empty. The slash is such a character, so of a folder that
is read a page without a slug in its front matter has a slug joined from the slugs of the
directories above it and of its name without the extension, empty ones left out, unless all of them
are empty. -/
theorem slug_of_names (read : List Char → Except FrontMatterFault FrontMatter) :
    (∀ (a b : String) (c : Char), Text.isAlphanumeric c = false → Text.isCased c = false →
      Text.isCaseIgnorable c = false →
        clean (a ++ String.singleton c ++ b) =
          "-".intercalate ([clean a, clean b].filter (· ≠ ""))) ∧
      ∀ (refuses : List Bytes → Option PathFault) (d : Disk) root entries records, d.Proper →
        d.resolve root = .ok (.directory entries) →
        recordsWith read refuses d root = .ok records →
        ∀ above name stem content fields body,
          IsPage (.directory entries) (above ++ [name]) content → IsStemOf stem name →
          Reads read content fields body → fields.slug = none →
            pageRecord ("/".intercalate ((above ++ [name]).map Text.lossy)) fields body ∈ records ∧
              ∀ doc, (pageRecord ("/".intercalate ((above ++ [name]).map Text.lossy)) fields
                  body).normalize = .ok doc →
                clean ("/".intercalate ((above ++ [stem]).map Text.lossy)) ≠ "" →
                  doc.slug = "-".intercalate
                    (((above ++ [stem]).map fun n => clean (Text.lossy n)).filter (· ≠ "")) := by
  constructor
  · intro a b c halnum hcased hignorable
    have hparts := Slug.clean_intercalate halnum ⟨hcased, hignorable⟩ [a, b]
    rw [String.intercalate_cons_cons, String.intercalate_singleton] at hparts
    exact hparts
  · intro refuses d root entries records hd hroot hrecords above name stem content fields body hpage
      hstem hread hslug
    refine ⟨?_, fun doc hdoc hne => ?_⟩
    · exact (mem_of_recordsWith_eq_ok hd hroot hrecords).mpr
        ⟨_, content, fields, body, hpage, hread, rfl⟩
    · exact (slug_of_normalize_pageRecord hstem hslug hdoc hne).trans (clean_pageId _)

/-- A page below two directories, of whose names one gives nothing. -/
theorem slug_of_names_of_nested_page :
    let page : ByteArray := "---\nx\n---\n".toUTF8
    let entries : List (Bytes × FileTree) :=
      [("ΟΔΟΣ", .directory [("--", .directory [("Cd.v2.md", .file page)])])]
    let disk : Disk := { tree := .directory [("content", .directory entries)] }
    let read : List Char → Except FrontMatterFault FrontMatter := fun _ => .ok { title := some "T" }
    let refuses : List Bytes → Option PathFault := fun _ => none
    clean "ΟΔΟΣ Σ" = "οδος-σ" ∧ disk.Proper ∧ disk.resolve "content" = .ok (.directory entries) ∧
      ∃ records r doc, recordsWith read refuses disk "content" = .ok records ∧ r ∈ records ∧
        r.id = some "ΟΔΟΣ/--/Cd.v2.md" ∧ r.normalize = .ok doc ∧ doc.slug = "οδος-cd-v2" := by
  intro page entries disk read refuses
  let below : FileTree := .directory [("Cd.v2.md", .file page)]
  let above : FileTree := .directory [("--", below)]
  have hbelow : below.Proper := FileTree.Proper.singleton (.file page) (by decide)
  have habove : above.Proper := hbelow.singleton (by decide)
  have hdisk : disk.Proper := proper_content (habove.singleton (by decide))
  have hroot : disk.resolve "content" = .ok (.directory entries) := resolve_content rfl
  let names : List Bytes := ["ΟΔΟΣ", "--"]
  have hstem : IsStemOf (Text.utf8 "Cd.v2") (Text.utf8 "Cd.v2.md") :=
    isStemOf_utf8_iff.mpr (.inl (by decide))
  have hpage : IsPage (.directory entries) (names ++ [Text.utf8 "Cd.v2.md"]) page :=
    isPage_iff.mpr ⟨rfl, by decide⟩
  have hread : Reads read page { title := some "T" } [] :=
    ⟨"---\nx\n---\n", by decide, by decide +kernel⟩
  have hget (names' : List Bytes) (u : FileTree) :
      (FileTree.directory entries).get? names' = some u ↔
        names' = [] ∧ u = .directory entries ∨ names' = [Text.utf8 "ΟΔΟΣ"] ∧ u = above ∨
          names' = names ∧ u = below ∨
            names' = names ++ [Text.utf8 "Cd.v2.md"] ∧ u = .file page := by
    simp [entries, above, below, names, FileTree.get?_directory_singleton_eq_some_iff, and_or_left,
      exists_or]
  obtain ⟨records, hrecords⟩ :
      ∃ records, recordsWith read refuses disk "content" = .ok records := by
    refine (exists_recordsWith_eq_ok_iff hdisk hroot).mpr (not_stopsAt ?_ ?_)
    · intro names' entries' h
      rcases (hget _ _).mp h with ⟨rfl, -⟩ | ⟨rfl, -⟩ | ⟨rfl, -⟩ | ⟨rfl, -⟩
      all_goals decide
    · intro names' content h
      have heq : names' = names ++ [Text.utf8 "Cd.v2.md"] ∧ content = page := by
        simpa [entries, above, below] using (hget _ _).mp h.get?_eq
      obtain ⟨rfl, rfl⟩ := heq
      exact ⟨by decide, _, _, hread⟩
  obtain ⟨hparts, hslugs⟩ := slug_of_names read
  obtain ⟨hmem, hslug⟩ := hslugs refuses disk "content" entries records hdisk hroot hrecords
    names "Cd.v2.md" "Cd.v2" page _ _ hpage hstem hread rfl
  obtain ⟨doc, hdoc⟩ : ∃ doc, (pageRecord
      ("/".intercalate ((names ++ [Text.utf8 "Cd.v2.md"]).map Text.lossy))
      { title := some "T" } []).normalize = .ok doc :=
    ⟨_, RawRecord.normalize_eq_ok_iff.mpr
      ⟨_, _, ⟨rfl, by decide⟩, ⟨rfl, by decide⟩, rfl⟩⟩
  refine ⟨?_, hdisk, hroot, records, _, doc, hrecords, hmem, by decide, hdoc, ?_⟩
  · have hblank := hparts "ΟΔΟΣ" "Σ" ' ' (by decide +kernel) (by decide) (by decide +kernel)
    rw [show "ΟΔΟΣ Σ" = "ΟΔΟΣ" ++ String.singleton ' ' ++ "Σ" by decide, hblank]
    decide +kernel
  · rw [hslug doc hdoc (by decide +kernel)]
    decide +kernel

end DocSite.Folder
