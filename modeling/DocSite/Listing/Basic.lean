import DocSite.Record.Basic
import DocSite.Slug

/-!
# Questions to a listing

* `findBySlug` answers the first document with a slug.
* `neighbours` are the documents before and after one, which is recognised by its id.
* `latest` are the dated documents, the newest first; equal dates keep the order of the listing.
-/

namespace DocSite

/-- The first document whose slug is the cleaned text. -/
def findBySlug (docs : List Document) (slug : String) : Option Document :=
  docs.find? (·.slug == Slug.clean slug)

/-- The documents next to a document of a listing. -/
structure Neighbours where
  previous : Option Document := none
  next : Option Document := none

/-- The neighbours of the first document with the id of `doc`; none if there is no such document. -/
def neighbours (docs : List Document) (doc : Document) : Neighbours :=
  match docs.findIdx? (·.id == doc.id) with
  | none => {}
  | some i => ⟨if i = 0 then none else docs[i - 1]?, docs[i + 1]?⟩

/-- Whether a document may stand before another where newer documents come first. -/
def notOlder (a b : Document) : Bool :=
  match a.date, b.date with
  | some x, some y => !x.before y
  | none, some _ => false
  | _, none => true

/-- The `n` newest documents that have a date. -/
def latest (docs : List Document) (n : Nat) : List Document :=
  ((docs.filter (·.date.isSome)).mergeSort notOlder).take n

end DocSite
