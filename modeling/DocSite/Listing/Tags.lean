import DocSite.Record.Basic
import DocSite.Slug

/-!
# Tags of a listing

* `tagIndex` counts the documents of each tag, one document after the other, and sorts the counts by
  how many they are. The counts are kept in the order of the tags (`TagCount.add`), which the sort
  keeps where they are equal. A document that repeats a tag counts once for it.
* `withTag` are the documents that carry a tag.
-/

namespace DocSite

/-- A tag with the number of documents that carry it. -/
structure TagCount where
  tag : String
  count : Nat
deriving DecidableEq, Repr

namespace TagCount

/-- The counts after one more document with a tag. -/
def add (tag : String) : List TagCount → List TagCount
  | [] => [⟨tag, 1⟩]
  | e :: rest =>
    match Ord.compare tag e.tag with
    | .lt => ⟨tag, 1⟩ :: e :: rest
    | .eq => ⟨e.tag, e.count + 1⟩ :: rest
    | .gt => e :: add tag rest

/-- The counts after one more document. -/
def addDocument (counts : List TagCount) (d : Document) : List TagCount :=
  d.tags.eraseDups.foldl (fun counts tag => add tag counts) counts

/-- Whether an entry may stand before another where the most used tags come first. -/
def notRarer (a b : TagCount) : Bool :=
  b.count ≤ a.count

end TagCount

/-- The tags of a listing with their counts. -/
def tagIndex (docs : List Document) : List TagCount :=
  (docs.foldl TagCount.addDocument []).mergeSort TagCount.notRarer

/-- The documents that carry the cleaned tag. -/
def withTag (docs : List Document) (tag : String) : List Document :=
  docs.filter (·.tags.contains (Slug.clean tag))

end DocSite
