import DocSite.Catalog.Order
import DocSite.Record.Normalize

/-!
# Collecting documents

* `Fetched` is what a source answers: all records or an error.
* `collect` normalises every record, drops drafts and sorts what is left. The first record that is
  refused, draft or not, fails the whole collection. The sort is stable: equal keys keep the order
  of the source.
-/

namespace DocSite

/-- The answer of a source: the complete list of records, or why there is none. -/
abbrev Fetched := Except SiteError (List RawRecord)

/-- The listing of records. -/
def collectRecords (order : CategoryOrder) (records : List RawRecord) :
    Except SiteError (List Document) := do
  let docs ← records.mapM RawRecord.normalize
  return (docs.filter (!·.draft)).mergeSort order.le

/-- The listing of what a source answers. -/
def collect (order : CategoryOrder) (fetched : Fetched) : Except SiteError (List Document) := do
  collectRecords order (← fetched)

end DocSite
