import DocSite.Proofs.Record.Names

/-!
# Normalising a document again

A document is written back as a record with `Document.toRecord`.

* `Document.IsNormal` says what normalising settles: nothing that it requires is missing and each
  name is clean.
* `exists_normalize_eq_ok_iff`: the documents of records are the normal ones.
* `normalize_toRecord`: the record of such a document has that same document.
-/

namespace DocSite

/-- The record with the fields of a document. -/
def Document.toRecord (d : Document) : RawRecord where
  id := some d.id
  slug := some d.slug
  title := some d.title
  description := d.description
  tags := some d.tags
  category := d.category
  draft := some d.draft
  date := d.date
  body := some d.bodyText
  headings := d.headings

/-- The id and the title are not blank, and the slug, the category and the tags are clean. An empty
slug is one that no id could replace, and there is no empty category. -/
structure Document.IsNormal (d : Document) : Prop where
  isBlank_id : d.id.toList.all Text.isBlank = false
  isBlank_title : d.title.toList.all Text.isBlank = false
  clean_slug : Slug.clean d.slug = d.slug
  clean_id : d.slug = "" → Slug.clean d.id = ""
  cleanName?_category : cleanName? d.category = d.category
  map_clean_tags : d.tags.map Slug.clean = d.tags

/-- A name that is clean and not empty is kept. -/
theorem cleanName?_some {s : String} (hclean : Slug.clean s = s) (hne : s ≠ "") :
    cleanName? (some s) = some s := by
  rw [cleanName?_of_some, hclean, if_neg hne]

theorem cleanName?_cleanName? (raw : Option String) :
    cleanName? (cleanName? raw) = cleanName? raw := by
  cases h : cleanName? raw with
  | none => rfl
  | some name =>
    have hname := isKebabName_of_cleanName? h
    obtain ⟨c, hc, -⟩ := hname.exists_isNameChar
    refine cleanName?_some (Slug.clean_eq_self (.inr hname)) ?_
    rintro rfl
    exact absurd hc List.not_mem_nil

namespace RawRecord

variable {r : RawRecord} {d : Document}

theorem isNormal_of_normalize (h : r.normalize = .ok d) : d.IsNormal := by
  have hslug := clean_slug_of_normalize h
  have hempty := slug_eq_empty_iff h
  obtain ⟨id, title, ⟨-, hid⟩, ⟨-, htitle⟩, rfl⟩ := normalize_eq_ok_iff.mp h
  exact {
    isBlank_id := hid
    isBlank_title := htitle
    clean_slug := hslug
    clean_id := fun hnil => (hempty.mp hnil).1
    cleanName?_category := cleanName?_cleanName? r.category
    map_clean_tags := by
      show ((r.tags.getD []).map Slug.clean).map Slug.clean = (r.tags.getD []).map Slug.clean
      rw [List.map_map]
      exact List.map_congr_left fun t _ => Slug.clean_clean t }

/-- The slug of a normal document is chosen again: it is kept if it is not empty, and else the id
gives an empty one. -/
theorem getD_cleanName?_slug (h : d.IsNormal) :
    (cleanName? (some d.slug)).getD (Slug.clean d.id) = d.slug := by
  by_cases hempty : d.slug = ""
  · have hnone : cleanName? (some d.slug) = none := by
      rw [cleanName?_eq_none_iff]
      rintro s ⟨⟩
      rw [h.clean_slug, hempty]
    rw [hnone, Option.getD_none, h.clean_id hempty, hempty]
  · rw [cleanName?_some h.clean_slug hempty, Option.getD_some]

theorem normalize_toRecord_of_isNormal (h : d.IsNormal) : d.toRecord.normalize = .ok d := by
  refine normalize_eq_ok_iff.mpr
    ⟨d.id, d.title, ⟨rfl, h.isBlank_id⟩, ⟨rfl, h.isBlank_title⟩, ?_⟩
  calc d.toRecord.document d.id d.title
      = { d with
          slug := (cleanName? (some d.slug)).getD (Slug.clean d.id)
          category := cleanName? d.category
          tags := d.tags.map Slug.clean } := rfl
    _ = d := by rw [getD_cleanName?_slug h, h.cleanName?_category, h.map_clean_tags]

/-- The normal documents are those that normalising gives. -/
theorem exists_normalize_eq_ok_iff : (∃ r : RawRecord, r.normalize = .ok d) ↔ d.IsNormal :=
  ⟨fun ⟨_, h⟩ => isNormal_of_normalize h, fun h => ⟨d.toRecord, normalize_toRecord_of_isNormal h⟩⟩

/-- **Normalising a document again changes nothing.** -/
theorem normalize_toRecord (h : r.normalize = .ok d) : d.toRecord.normalize = .ok d :=
  normalize_toRecord_of_isNormal (exists_normalize_eq_ok_iff.mp ⟨r, h⟩)

/-- A record whose id stands in for a slug of which nothing is left, with a tag and a category of
which nothing is left either, and a record with nothing left of its id. -/
theorem normalize_toRecord_of_empty_names :
    let r : RawRecord := {
      id := some "Docs/Intro.md"
      slug := some "--"
      title := some " Intro"
      tags := some ["Rust Lang", "!"]
      category := some "?" }
    let d : Document := {
      id := "Docs/Intro.md"
      slug := "docs-intro-md"
      title := " Intro"
      tags := ["rust-lang", ""] }
    let q : RawRecord := { id := some "///", title := some "T", draft := some true }
    let e : Document := { id := "///", slug := "", title := "T", draft := true }
    (r.normalize = .ok d ∧ d.toRecord.normalize = .ok d) ∧
      q.normalize = .ok e ∧ e.toRecord.normalize = .ok e := by
  intro r d q e
  have hd : r.normalize = .ok d := by decide +kernel
  have he : q.normalize = .ok e := by decide +kernel
  exact ⟨⟨hd, normalize_toRecord hd⟩, he, normalize_toRecord he⟩

end RawRecord

end DocSite
