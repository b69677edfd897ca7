import DocSite.Catalog.Order
import DocSite.Error

/-!
# Settings

* `Settings` says where the pages are, where they are routed, how categories are ordered and how
  long the lists are.
* `Settings.validate` refuses settings that no command can work with; the first fault counts.
-/

namespace DocSite

/-- Where pages come from and how they are routed. -/
structure ContentSettings where
  dir : String := "content/docs"
  routePrefix : String := "/docs"
  categoryOrder : List String := CategoryOrder.defaultNames
deriving DecidableEq, Repr

/-- The names of the fields, in order. -/
def ContentSettings.fieldNames : List String :=
  ["dir", "route_prefix", "category_order"]

/-- How many documents the lists have. -/
structure ListingSettings where
  pageSize : Nat := 20
  relatedCount : Nat := 4
  latestCount : Nat := 10
deriving DecidableEq, Repr

/-- The names of the fields, in order. -/
def ListingSettings.fieldNames : List String :=
  ["page_size", "related_count", "latest_count"]

/-- All settings. -/
structure Settings where
  content : ContentSettings := {}
  listing : ListingSettings := {}
deriving DecidableEq, Repr

/-- The names of the parts, in order. -/
def Settings.fieldNames : List String :=
  ["content", "listing"]

/-- The first fault of settings. -/
def Settings.fault? (s : Settings) : Option SettingsFault :=
  if s.content.routePrefix.toList.head? ≠ some '/' then
    some (.relativeRoute s.content.routePrefix)
  else if s.content.categoryOrder.isEmpty then some .emptyCategoryOrder
  else if s.listing.pageSize = 0 then some .zeroPageSize
  else none

/-- The settings, unless they have a fault. -/
def Settings.validate (s : Settings) : Except SettingsFault Settings :=
  match s.fault? with
  | some f => .error f
  | none => .ok s

end DocSite
