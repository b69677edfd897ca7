import DocSite.Text.CodePoint

/-!
# White space

* `isBlank` is the Unicode property `White_Space`.
* `trim` drops blanks at both ends; `words` are the maximal runs without a blank.
-/

namespace DocSite.Text

/-- Code points with the property `White_Space`. -/
def whiteSpace : List (Nat × Nat) :=
  [(0x9, 0xd), (0x20, 0x20), (0x85, 0x85), (0xa0, 0xa0), (0x1680, 0x1680), (0x2000, 0x200a),
   (0x2028, 0x2029), (0x202f, 0x202f), (0x205f, 0x205f), (0x3000, 0x3000)]

/-- A white space character of any script. -/
def isBlank (c : Char) : Bool :=
  inRanges whiteSpace c

/-- The text without its leading blanks. -/
def trimStart (s : List Char) : List Char :=
  s.dropWhile isBlank

/-- The text without its trailing blanks. -/
def trimEnd (s : List Char) : List Char :=
  (s.reverse.dropWhile isBlank).reverse

/-- The text without the blanks at either end. -/
def trim (s : List Char) : List Char :=
  trimEnd (trimStart s)

/-- The maximal non-empty runs of characters that are not blank. -/
def words (s : List Char) : List (List Char) :=
  (s.splitOnP isBlank).filter (!·.isEmpty)

end DocSite.Text
