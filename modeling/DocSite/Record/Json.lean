import DocSite.Date.Reader
import DocSite.Json.Fields
import DocSite.Record.Basic

/-!
# Records and documents in JSON

* `RawRecord.toJson` and `Heading.toJson` write every field, unset ones as null.
* `Document.toJson` leaves out unset fields, an empty list of headings and the body text.
* `ofJson?` reads each of them back; a heading's depth is below 256.
-/

namespace DocSite

open Json

/-- A date as its text. -/
def Date.toJson (a : Date) : Json :=
  .string a.text

/-- A list of texts. -/
def stringsJson (xs : List String) : Json :=
  .array (xs.map .string)

namespace Heading

/-- All fields of a heading. -/
def toJson (h : Heading) : Json :=
  .object [("depth", .integer h.depth), ("slug", .string h.slug), ("text", .string h.text)]

/-- A heading with all its fields. -/
def ofJson? (v : Json) : Option Heading := do
  let field ← v.fields? ["depth", "slug", "text"]
  return {
    depth := ← required (natBelow? 256) (field "depth")
    slug := ← required string? (field "slug")
    text := ← required string? (field "text") }

end Heading

/-- A date written as a text. -/
def Date.ofJson? (v : Json) : Option Date :=
  v.string?.bind Date.ofJsonText?

namespace RawRecord

/-- All fields of a record, unset ones as null. -/
def toJson (r : RawRecord) : Json :=
  .object [
    ("id", ofString? r.id),
    ("slug", ofString? r.slug),
    ("title", ofString? r.title),
    ("description", ofString? r.description),
    ("tags", (r.tags.map stringsJson).getD .null),
    ("category", ofString? r.category),
    ("draft", (r.draft.map .bool).getD .null),
    ("date", (r.date.map Date.toJson).getD .null),
    ("body", ofString? r.body),
    ("headings", .array (r.headings.map Heading.toJson))]

/-- The names of a record's fields in order. -/
def fieldNames : List String :=
  ["id", "slug", "title", "description", "tags", "category", "draft", "date", "body", "headings"]

/-- A record; every field may be missing, and all but the headings may be null. -/
def ofJson? (v : Json) : Option RawRecord := do
  let field ← v.fields? fieldNames
  return {
    id := ← optional string? (field "id")
    slug := ← optional string? (field "slug")
    title := ← optional string? (field "title")
    description := ← optional string? (field "description")
    tags := ← optional (list string?) (field "tags")
    category := ← optional string? (field "category")
    draft := ← optional bool? (field "draft")
    date := ← optional Date.ofJson? (field "date")
    body := ← optional string? (field "body")
    headings := ← withDefault [] (list Heading.ofJson?) (field "headings") }

end RawRecord

namespace Document

/-- The member of an optional field: none when it is unset. -/
def optionalMember (name : String) : Option Json → List (String × Json)
  | some v => [(name, v)]
  | none => []

/-- The public fields of a document. -/
def toJson (d : Document) : Json :=
  .object <|
    [("id", .string d.id), ("slug", .string d.slug), ("title", .string d.title)]
      ++ optionalMember "description" (d.description.map .string)
      ++ optionalMember "category" (d.category.map .string)
      ++ [("tags", stringsJson d.tags), ("draft", .bool d.draft)]
      ++ optionalMember "date" (d.date.map Date.toJson)
      ++ optionalMember "headings"
          (if d.headings.isEmpty then none else some (.array (d.headings.map Heading.toJson)))

/-- The names of a document's fields in order. -/
def fieldNames : List String :=
  ["id", "slug", "title", "description", "category", "tags", "draft", "date", "headings",
    "body_text"]

/-- A document; its id, slug and title have to be there. -/
def ofJson? (v : Json) : Option Document := do
  let field ← v.fields? fieldNames
  return {
    id := ← required string? (field "id")
    slug := ← required string? (field "slug")
    title := ← required string? (field "title")
    description := ← optional string? (field "description")
    category := ← optional string? (field "category")
    tags := ← withDefault [] (list string?) (field "tags")
    draft := ← withDefault false bool? (field "draft")
    date := ← optional Date.ofJson? (field "date")
    headings := ← withDefault [] (list Heading.ofJson?) (field "headings")
    bodyText := ← withDefault "" string? (field "body_text") }

end Document

end DocSite
