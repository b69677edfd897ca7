import DocSite.Json.Printer
import DocSite.Number.Decimal
import DocSite.Record.Json
import DocSite.Related

/-!
# Answers as JSON

* `pageRows` and `relatedRows` are arrays with one object a document.
-/

namespace DocSite.Answer

/-- The object of a document on a page of the listing. -/
def pageRow (route : String) (d : Document) : Json :=
  .object [("slug", .string d.slug), ("title", .string d.title), ("category", .string d.group),
    ("tags", stringsJson d.tags), ("permalink", .string (d.permalink route))]

/-- The documents of a page. -/
def pageRows (route : String) (docs : List Document) : Json :=
  .array (docs.map (pageRow route))

/-- The object of a related document with its score. -/
def relatedRow (route : String) (s : Scored) : Json :=
  .object [("slug", .string s.document.slug), ("title", .string s.document.title),
    ("permalink", .string (s.document.permalink route)), ("score", .decimal s.score.shortestText)]

/-- The related documents. -/
def relatedRows (route : String) (ranked : List Scored) : Json :=
  .array (ranked.map (relatedRow route))

end DocSite.Answer
