import DocSite.Error
import DocSite.Record.Basic
import DocSite.Slug
import DocSite.Text.Blank

/-!
# From record to document

* `RawRecord.normalize` accepts a record with an id and a title that are not blank, cleans its slug,
  category and tags, and fills in what is missing.
* A slug that cleans to nothing is replaced by the cleaned id; a category that cleans to nothing is
  dropped; tags are cleaned one by one and all kept.
-/

namespace DocSite

/-- The value of a required field, unless it is missing or blank. -/
def required (label : String) (field : RequiredField) (value : Option String) :
    Except SiteError String :=
  match value with
  | some v => if v.toList.all Text.isBlank then .error (.missingField label field) else .ok v
  | none => .error (.missingField label field)

/-- A cleaned name, unless nothing is left of it. -/
def cleanName? (raw : Option String) : Option String :=
  (raw.map Slug.clean).filter (!·.isEmpty)

namespace RawRecord

/-- The name of a record in error messages: its id, else its slug, else its title. -/
def label (r : RawRecord) : String :=
  (r.id <|> r.slug <|> r.title).getD "<unnamed>"

/-- The document of a record. -/
def normalize (r : RawRecord) : Except SiteError Document := do
  let id ← required r.label .id r.id
  let title ← required r.label .title r.title
  return {
    id
    title
    slug := (cleanName? r.slug).getD (Slug.clean id)
    description := r.description
    category := cleanName? r.category
    tags := (r.tags.getD []).map Slug.clean
    draft := r.draft.getD false
    date := r.date
    headings := r.headings
    bodyText := r.body.getD "" }

end RawRecord

end DocSite
