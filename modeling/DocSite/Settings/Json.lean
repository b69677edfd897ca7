import DocSite.Json.Fields
import DocSite.Settings.Basic

/-!
# Settings in JSON

* `toJson` and `ofJson?` write and read settings. A part or a field that is missing has its default;
  a count is below `2^64`.
-/

namespace DocSite

open Json

/-- Reads a count. -/
def countOfJson? : Json → Option Nat :=
  natBelow? (Nat.pow 2 64)

namespace ContentSettings

/-- Writes the settings of the content. -/
def toJson (c : ContentSettings) : Json :=
  .object [("dir", .string c.dir), ("route_prefix", .string c.routePrefix),
    ("category_order", .array (c.categoryOrder.map .string))]

/-- Reads the settings of the content. -/
def ofJson? (v : Json) : Option ContentSettings := do
  let field ← v.fields? fieldNames
  let default : ContentSettings := {}
  return {
    dir := ← withDefault default.dir string? (field "dir")
    routePrefix := ← withDefault default.routePrefix string? (field "route_prefix")
    categoryOrder :=
      ← withDefault default.categoryOrder (list string?) (field "category_order") }

end ContentSettings

namespace ListingSettings

/-- Writes the settings of lists. -/
def toJson (l : ListingSettings) : Json :=
  .object [("page_size", .integer l.pageSize), ("related_count", .integer l.relatedCount),
    ("latest_count", .integer l.latestCount)]

/-- Reads the settings of lists. -/
def ofJson? (v : Json) : Option ListingSettings := do
  let field ← v.fields? fieldNames
  let default : ListingSettings := {}
  return {
    pageSize := ← withDefault default.pageSize countOfJson? (field "page_size")
    relatedCount := ← withDefault default.relatedCount countOfJson? (field "related_count")
    latestCount := ← withDefault default.latestCount countOfJson? (field "latest_count") }

end ListingSettings

namespace Settings

/-- Writes settings. -/
def toJson (s : Settings) : Json :=
  .object [("content", s.content.toJson), ("listing", s.listing.toJson)]

/-- Reads settings. -/
def ofJson? (v : Json) : Option Settings := do
  let field ← v.fields? fieldNames
  return {
    content := ← withDefault {} ContentSettings.ofJson? (field "content")
    listing := ← withDefault {} ListingSettings.ofJson? (field "listing") }

end Settings

end DocSite
