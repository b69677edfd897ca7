import DocSite.Proofs.Slug
import DocSite.Record.Normalize
import Mathlib.Tactic.Common

/-!
# What a record is normalised to

* `normalize_eq_ok_iff`: a record is accepted exactly when it has an id and a title that are not
  blank, and then its fields determine the document (`RawRecord.document`).
* `normalize_eq_error_iff`: a record with an id is refused for its title only.
* `clean_slug_of_normalize`: the slug of a document is clean, also where it comes from the id.
-/

namespace DocSite

theorem required_eq_ok_iff {label : String} {field : RequiredField} {value : Option String}
    {v : String} :
    required label field value = .ok v ↔ value = some v ∧ v.toList.all Text.isBlank = false := by
  cases value with
  | none => simp [required]
  | some w =>
    rw [required, Option.some.injEq]
    constructor
    · intro h
      split_ifs at h with hblank
      cases h
      exact ⟨rfl, eq_false_of_ne_true hblank⟩
    · rintro ⟨rfl, hblank⟩
      rw [hblank]
      rfl

theorem required_eq_error_iff {label : String} {field : RequiredField} {value : Option String}
    {e : SiteError} :
    required label field value = .error e ↔
      (∀ v, value = some v → v.toList.all Text.isBlank) ∧ e = .missingField label field := by
  cases value with
  | none =>
    constructor
    · intro h
      cases h
      exact ⟨fun v hv => absurd hv (Option.some_ne_none v).symm, rfl⟩
    · rintro ⟨-, rfl⟩
      rfl
  | some w =>
    rw [required]
    by_cases hblank : w.toList.all Text.isBlank
    · rw [if_pos hblank]
      constructor
      · intro h
        cases h
        exact ⟨fun v hv => Option.some.inj hv ▸ hblank, rfl⟩
      · rintro ⟨-, rfl⟩
        rfl
    · rw [if_neg hblank]
      constructor
      · intro h
        cases h
      · rintro ⟨hall, -⟩
        exact absurd (hall w rfl) hblank

/-- A name is cleaned, and dropped if nothing is left of it. -/
theorem cleanName?_of_some (raw : String) :
    cleanName? (some raw) = if Slug.clean raw = "" then none else some (Slug.clean raw) := by
  split_ifs with h <;> simp [cleanName?, h]

namespace RawRecord

/-- The document of a record with this id and title. -/
def document (r : RawRecord) (id title : String) : Document where
  id := id
  title := title
  slug := (cleanName? r.slug).getD (Slug.clean id)
  description := r.description
  category := cleanName? r.category
  tags := (r.tags.getD []).map Slug.clean
  draft := r.draft.getD false
  date := r.date
  headings := r.headings
  bodyText := r.body.getD ""

/-- A record is accepted exactly when its id and its title are set and not blank. -/
theorem normalize_eq_ok_iff {r : RawRecord} {d : Document} :
    r.normalize = .ok d ↔
      ∃ id title, (r.id = some id ∧ id.toList.all Text.isBlank = false) ∧
        (r.title = some title ∧ title.toList.all Text.isBlank = false) ∧
        r.document id title = d := by
  constructor
  · intro h
    rw [normalize] at h
    cases hid : required r.label .id r.id with
    | error e => rw [hid] at h; cases h
    | ok id =>
      cases htitle : required r.label .title r.title with
      | error e => rw [hid, htitle] at h; cases h
      | ok title =>
        rw [hid, htitle] at h
        cases h
        exact ⟨id, title, required_eq_ok_iff.mp hid, required_eq_ok_iff.mp htitle, rfl⟩
  · rintro ⟨id, title, hid, htitle, rfl⟩
    rw [normalize, required_eq_ok_iff.mpr hid, required_eq_ok_iff.mpr htitle]
    rfl

theorem label_of_id {r : RawRecord} {id : String} (hid : r.id = some id) : r.label = id := by
  rw [label, hid]
  rfl

/-- Where the id is set and not blank, a record is refused exactly for its title. -/
theorem normalize_eq_error_iff {r : RawRecord} {id : String} (hid : r.id = some id)
    (hne : id.toList.all Text.isBlank = false) {e : SiteError} :
    r.normalize = .error e ↔
      (∀ t, r.title = some t → t.toList.all Text.isBlank) ∧ e = .missingField id .title := by
  have hlabel := label_of_id hid
  -- The id is checked first, so what is left to fail is the check of the title.
  have hrequired : required r.label .id r.id = .ok id := required_eq_ok_iff.mpr ⟨hid, hne⟩
  rw [← hlabel, ← required_eq_error_iff, normalize, hrequired]
  cases required r.label .title r.title with
  | error e' =>
    constructor
    · intro h
      cases h
      rfl
    · intro h
      cases h
      rfl
  | ok title =>
    constructor
    · intro h
      cases h
    · intro h
      cases h

/-- A raw slug gives the document's slug, unless nothing is left of it. -/
theorem slug_eq_of_normalize {r : RawRecord} {d : Document} (h : r.normalize = .ok d) {raw : String}
    (hraw : r.slug = some raw) :
    d.slug = if Slug.clean raw = "" then Slug.clean d.id else Slug.clean raw := by
  obtain ⟨id, title, -, -, rfl⟩ := normalize_eq_ok_iff.mp h
  rw [document, hraw, cleanName?_of_some]
  split_ifs <;> rfl

theorem slug_eq_clean_of_normalize {r : RawRecord} {d : Document} (h : r.normalize = .ok d)
    {raw : String} (hraw : r.slug = some raw) (hne : Slug.clean raw ≠ "") :
    d.slug = Slug.clean raw :=
  (slug_eq_of_normalize h hraw).trans (if_neg hne)

/-- Nothing of a record with an id depends on its slug but the slug of the document. -/
theorem normalize_withSlug {r : RawRecord} {id : String} (hid : r.id = some id)
    (raw : Option String) :
    normalize { r with slug := raw } =
      r.normalize.map fun d => { d with slug := (cleanName? raw).getD (Slug.clean id) } := by
  have hlabel : label { r with slug := raw } = id := label_of_id hid
  -- The id stands in every error, so the slug is in none.
  rw [normalize, normalize, hlabel, label_of_id hid]
  simp only [hid]
  cases hrequired : required id .id (some id) with
  | error e => rfl
  | ok id' =>
    obtain rfl : id = id' := Option.some.inj (required_eq_ok_iff.mp hrequired).1
    cases required id .title r.title with
    | error e => rfl
    | ok title => rfl

/-- A document's slug is some text that was cleaned. -/
theorem exists_slug_eq_clean {r : RawRecord} {d : Document} (h : r.normalize = .ok d) :
    ∃ raw, d.slug = Slug.clean raw := by
  obtain ⟨id, title, -, -, rfl⟩ := normalize_eq_ok_iff.mp h
  cases hname : cleanName? r.slug with
  | none => exact ⟨id, by rw [document, hname, Option.getD_none]⟩
  | some name =>
    obtain ⟨raw, -, rfl⟩ : ∃ raw, r.slug = some raw ∧ Slug.clean raw = name :=
      Option.map_eq_some_iff.mp (Option.filter_eq_some_iff.mp hname).1
    exact ⟨raw, by rw [document, hname, Option.getD_some]⟩

/-- The slug of a document is clean. -/
theorem clean_slug_of_normalize {r : RawRecord} {d : Document} (h : r.normalize = .ok d) :
    Slug.clean d.slug = d.slug := by
  obtain ⟨raw, hraw⟩ := exists_slug_eq_clean h
  rw [hraw, Slug.clean_clean]

end RawRecord

end DocSite
