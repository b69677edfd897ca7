import DocSite.Date.Basic

/-!
# Records and documents

* `RawRecord` is what a source delivers: every field may be missing.
* `Document` is a record that can be listed: it has an id, a slug and a title.
* `Document.permalink` is the address of a document below a route.
-/

namespace DocSite

/-- A heading of a page, of level 1 to 6 when it comes from a page's text. -/
structure Heading where
  depth : Nat
  slug : String
  text : String
deriving DecidableEq, Repr

/-- A record as its source has it. -/
structure RawRecord where
  id : Option String := none
  slug : Option String := none
  title : Option String := none
  description : Option String := none
  tags : Option (List String) := none
  category : Option String := none
  draft : Option Bool := none
  date : Option Date := none
  body : Option String := none
  headings : List Heading := []
deriving DecidableEq, Repr

/-- A page that can be listed, shown and compared. -/
structure Document where
  id : String
  slug : String
  title : String
  description : Option String := none
  category : Option String := none
  tags : List String := []
  draft : Bool := false
  date : Option Date := none
  headings : List Heading := []
  bodyText : String := ""
deriving DecidableEq, Repr

/-- The group of documents that have no category. -/
def uncategorized : String :=
  "uncategorized"

namespace Document

/-- The group under which a document is listed. -/
def group (d : Document) : String :=
  d.category.getD uncategorized

/-- A route without its trailing slashes. -/
def trimRoute (route : List Char) : List Char :=
  (route.reverse.dropWhile (· == '/')).reverse

/-- The address of a document below a route. -/
def permalink (d : Document) (route : String) : String :=
  String.ofList (trimRoute route.toList ++ '/' :: d.slug.toList)

end Document

end DocSite
