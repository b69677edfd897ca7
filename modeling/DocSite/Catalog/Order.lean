import DocSite.Record.Basic
import DocSite.Slug

/-!
# Category order

* `CategoryOrder.rank` is the place of a category in a priority list; categories that are unset or
  not listed share the place of `uncategorized`, or come last when the list lacks it.
* `CategoryOrder.le` orders documents by rank, then by title, character by character.
-/

namespace DocSite

/-- A priority list of categories, written as slugs. -/
structure CategoryOrder where
  names : List String
deriving DecidableEq, Repr

namespace CategoryOrder

/-- The priority list of names that are cleaned first. -/
def ofNames (names : List String) : CategoryOrder :=
  ⟨names.map Slug.clean⟩

/-- The names of the default priority list. -/
def defaultNames : List String :=
  ["getting-started", "batteries", "development", uncategorized]

/-- The default priority list. -/
def default : CategoryOrder :=
  ofNames defaultNames

/-- The first place of a name in the list. -/
def position? (o : CategoryOrder) (name : String) : Option Nat :=
  o.names.findIdx? (· == name)

/-- The place of a category. -/
def rank (o : CategoryOrder) (category : Option String) : Nat :=
  (category.bind o.position? <|> o.position? uncategorized).getD o.names.length

/-- The order of a listing. -/
def compare (o : CategoryOrder) (a b : Document) : Ordering :=
  (Ord.compare (o.rank a.category) (o.rank b.category)).then (Ord.compare a.title b.title)

/-- Whether `a` may stand before `b` in a listing. -/
def le (o : CategoryOrder) (a b : Document) : Bool :=
  (o.compare a b).isLE

end CategoryOrder

end DocSite
