import DocSite.Settings.Basic
import DocSite.Toml.Reader

/-!
# Settings in TOML

* `Settings.readToml?` reads settings. A part or a field that is missing has its default, and names
  that no field has are skipped.
* `Settings.toml?` writes all fields of settings, each part under a header. Counts from `2^63` on
  cannot be written.
-/

namespace DocSite

open Toml

/-! ### Reading -/

/-- Reads the settings of the content. -/
def ContentSettings.ofToml? (v : Toml) : Option ContentSettings := do
  let field ← v.fields? fieldNames
  let default : ContentSettings := {}
  return {
    dir := ← withDefault default.dir string? (field "dir")
    routePrefix := ← withDefault default.routePrefix string? (field "route_prefix")
    categoryOrder := ← withDefault default.categoryOrder (list string?) (field "category_order") }

/-- Reads the settings of lists. -/
def ListingSettings.ofToml? (v : Toml) : Option ListingSettings := do
  let field ← v.fields? fieldNames
  let default : ListingSettings := {}
  return {
    pageSize := ← withDefault default.pageSize natural? (field "page_size")
    relatedCount := ← withDefault default.relatedCount natural? (field "related_count")
    latestCount := ← withDefault default.latestCount natural? (field "latest_count") }

namespace Settings

/-- Reads settings. -/
def ofToml? (v : Toml) : Option Settings := do
  let field ← v.fields? fieldNames
  return {
    content := ← withDefault {} ContentSettings.ofToml? (field "content")
    listing := ← withDefault {} ListingSettings.ofToml? (field "listing") }

/-- Reads the settings of a document. -/
def readToml? (text : String) : Option Settings :=
  (readDocument? text).bind fun root => ofToml? (.table .header root)

/-! ### Writing -/

/-- The characters of an array, one item a line if it has more than one. -/
def arrayText : List (List Char) → List Char
  | [] => "[]".toList
  | [item] => '[' :: item ++ [']']
  | items =>
    '[' :: '\n' :: items.flatMap (fun item => "    ".toList ++ item ++ [',', '\n']) ++ [']']

/-- A line with a key and its value. -/
def entryText (name : String) (value : List Char) : List Char :=
  name.toList ++ " = ".toList ++ value ++ ['\n']

/-- The line of a header. -/
def headerText (name : String) : List Char :=
  '[' :: name.toList ++ [']', '\n']

/-- The digits of a count, unless it is too great. -/
def countText? (n : Nat) : Option (List Char) :=
  if n < Nat.pow 2 63 then some (toString n).toList else none

/-- The lines of the settings of the content. -/
def contentText (c : ContentSettings) : List Char :=
  headerText "content"
    ++ entryText "dir" (written c.dir.toList)
    ++ entryText "route_prefix" (written c.routePrefix.toList)
    ++ entryText "category_order" (arrayText (c.categoryOrder.map fun name => written name.toList))

/-- The lines of the settings of lists. -/
def listingText? (l : ListingSettings) : Option (List Char) := do
  let pageSize ← countText? l.pageSize
  let relatedCount ← countText? l.relatedCount
  let latestCount ← countText? l.latestCount
  return headerText "listing"
    ++ entryText "page_size" pageSize
    ++ entryText "related_count" relatedCount
    ++ entryText "latest_count" latestCount

/-- The document of settings. -/
def toml? (s : Settings) : Option String :=
  (listingText? s.listing).map fun listing =>
    String.ofList (contentText s.content ++ '\n' :: listing)

end Settings

end DocSite
