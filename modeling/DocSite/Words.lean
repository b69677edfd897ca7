import DocSite.Record.Basic
import DocSite.Text.Blank
import DocSite.Text.Lowercase

/-!
# Words of a document

* `tokens` are the words of a text in lowercase that have more than three characters.
* `Document.words` are the distinct tokens of title and body, in the order of their first
  occurrence.
-/

namespace DocSite

/-- Words of so many characters or fewer are ignored. -/
def minWordChars : Nat :=
  3

/-- The words of a text in lowercase, without the short ones. Length counts after lowering. -/
def tokens (text : String) : List (List Char) :=
  ((Text.words text.toList).map Text.lowercase).filter (minWordChars < ·.length)

/-- The distinct tokens of a document's title and body. -/
def Document.words (d : Document) : List (List Char) :=
  (tokens d.title ++ tokens d.bodyText).eraseDups

end DocSite
