import DocSite.Catalog.Collect

/-!
# The catalog

A catalog keeps the listing of its source until it is told to forget it. Each operation is one step
on the catalog's state.

* `load` answers the snapshot, which it takes first if there is none. A failed load leaves the
  catalog empty.
* `invalidate` forgets the snapshot; `reload` is `invalidate`, then `load`.
* `fetches` counts how often the source was asked, and snapshots are numbered in the order in which
  they were taken.
-/

namespace DocSite

/-- A listing as it was taken from the source. -/
structure Snapshot where
  number : Nat
  documents : List Document

/-- A source with the listing that was last taken from it. -/
structure Catalog where
  order : CategoryOrder
  source : Fetched
  snapshot : Option Snapshot := none
  fetches : Nat := 0
  taken : Nat := 0

namespace Catalog

/-- A catalog that has not asked its source yet. -/
def new (order : CategoryOrder) (source : Fetched) : Catalog :=
  { order, source }

/-- Whether the catalog has a snapshot. -/
def isLoaded (c : Catalog) : Bool :=
  c.snapshot.isSome

/-- The snapshot, taken from the source if there is none. -/
def load (c : Catalog) : Except SiteError Snapshot × Catalog :=
  match c.snapshot with
  | some s => (.ok s, c)
  | none =>
    match collect c.order c.source with
    | .ok docs =>
      let s : Snapshot := ⟨c.taken, docs⟩
      (.ok s, { c with snapshot := some s, fetches := c.fetches + 1, taken := c.taken + 1 })
    | .error e => (.error e, { c with fetches := c.fetches + 1 })

/-- The catalog without its snapshot. -/
def invalidate (c : Catalog) : Catalog :=
  { c with snapshot := none }

/-- A snapshot that is taken anew. -/
def reload (c : Catalog) : Except SiteError Snapshot × Catalog :=
  c.invalidate.load

/-- The catalog with another source; a snapshot that is kept stays as it is. -/
def replaceSource (c : Catalog) (source : Fetched) : Catalog :=
  { c with source }

end Catalog

end DocSite
