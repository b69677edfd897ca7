import DocSite.Text.Alphanumeric
import DocSite.Text.Lowercase

/-!
# Slugs

A slug is a kebab-case name: runs of letters and digits in lowercase, joined by single hyphens.

* `cleanChars` turns any text into a slug: it lowers the text, drops everything that is not a letter
  or a digit and every uppercase character that has no lowercase, and joins what is left.
-/

namespace DocSite.Slug

open Text

/-- A character that cannot stand in a slug's run. -/
def isSeparator (c : Char) : Bool :=
  !isAlphanumeric c || isUppercase c

/-- The maximal non-empty runs between separators. -/
def runs (s : List Char) : List (List Char) :=
  (s.splitOnP isSeparator).filter (!·.isEmpty)

/-- Runs written with a hyphen between neighbours. -/
def join (rs : List (List Char)) : List Char :=
  ['-'].intercalate rs

/-- The slug of a text. -/
def cleanChars (s : List Char) : List Char :=
  join (runs (lowercase s))

/-- The slug of a title, path, category or tag. -/
def clean (raw : String) : String :=
  String.ofList (cleanChars raw.toList)

end DocSite.Slug
