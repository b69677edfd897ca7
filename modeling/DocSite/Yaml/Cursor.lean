/-!
# Places in a YAML text

* `Cursor` is a place in a text: what is left of it, and how many characters, lines and columns lie
  before it.
* `skip`, `skipWhile` and `skipLine` move within a line and over its end.
* `isReadable` is the set of characters that a text may hold.
-/

namespace DocSite.Yaml

/-- A blank within a line. -/
def isBlank (c : Char) : Bool :=
  c == ' ' || c == '\t'

/-- A character that ends a line. -/
def isLineBreak (c : Char) : Bool :=
  c == '\n' || c == '\r' || c == '\u0085' || c == '\u2028' || c == '\u2029'

/-- A character of the names of anchors, directives and tag handles. -/
def isNameChar (c : Char) : Bool :=
  c.isAlphanum || c == '_' || c == '-'

/-- The mark that may start a line without being part of it. -/
def byteOrderMark : Char := '\ufeff'

/-- A character that a text may hold: no control character other than tab and line ends. -/
def isReadable (c : Char) : Bool :=
  let n := c.toNat
  n == 0x9 || n == 0xa || n == 0xd || (0x20 ≤ n && n ≤ 0x7e) || n == 0x85
    || (0xa0 ≤ n && n ≤ 0xfffd) || 0x10000 ≤ n

/-- A place in a text. -/
structure Cursor where
  rest : List Char
  index : Nat := 0
  line : Nat := 0
  column : Nat := 0
deriving DecidableEq, Repr

namespace Cursor

/-- The character `n` places on. -/
def peek? (c : Cursor) (n : Nat) : Option Char :=
  c.rest[n]?

/-- Whether a character stands `n` places on. -/
def has (c : Cursor) (n : Nat) (d : Char) : Bool :=
  c.peek? n == some d

/-- Whether the character `n` places on passes a test. -/
def test (c : Cursor) (n : Nat) (p : Char → Bool) : Bool :=
  (c.peek? n).any p

/-- Whether the text ends here. -/
def atEnd (c : Cursor) : Bool :=
  c.rest.isEmpty

/-- Whether a line ends here. -/
def atBreak (c : Cursor) : Bool :=
  c.test 0 isLineBreak

/-- Whether a word that ends `n` places on ends there: at a blank, a line end or the end of the
text. -/
def wordEnds (c : Cursor) (n : Nat) : Bool :=
  match c.peek? n with
  | none => true
  | some d => isBlank d || isLineBreak d

/-- The place `n` characters on within the line. -/
def skip (c : Cursor) (n : Nat) : Cursor :=
  ⟨c.rest.drop n, c.index + n, c.line, c.column + n⟩

/-- The characters from here on that pass a test. -/
def takeWhile (c : Cursor) (p : Char → Bool) : List Char :=
  c.rest.takeWhile p

/-- The place after the characters that pass a test. -/
def skipWhile (c : Cursor) (p : Char → Bool) : Cursor :=
  c.skip (c.takeWhile p).length

/-- The place after the line end that stands here. A carriage return and a line feed are one. -/
def skipLine (c : Cursor) : Cursor :=
  let n := if c.has 0 '\r' && c.has 1 '\n' then 2 else 1
  if c.atBreak then ⟨c.rest.drop n, c.index + n, c.line + 1, 0⟩ else c

/-- The line end that stands here as text: a line feed, but for the separators of Unicode. -/
def breakText (c : Cursor) : List Char :=
  match c.peek? 0 with
  | none => []
  | some d =>
    if !isLineBreak d then []
    else if d = '\u2028' ∨ d = '\u2029' then [d] else ['\n']

/-- The place after blanks. -/
def skipBlanks (c : Cursor) : Cursor :=
  c.skipWhile isBlank

/-- The end of the line. -/
def lineEnd (c : Cursor) : Cursor :=
  c.skipWhile (!isLineBreak ·)

/-- The place after blanks, a comment and the line's end; nothing where something else follows. -/
def skipRest? (c : Cursor) : Option Cursor :=
  let c := c.skipBlanks
  let c := if c.has 0 '#' then c.lineEnd else c
  if c.wordEnds 0 then some c.skipLine else none

/-- Whether a line starts here with a mark between documents: three dashes or three dots. -/
def atDocumentMark (c : Cursor) (d : Char) : Bool :=
  c.column == 0 && c.has 0 d && c.has 1 d && c.has 2 d && c.wordEnds 3

/-- Whether a line starts here with either mark between documents. -/
def atDocumentEdge (c : Cursor) : Bool :=
  c.atDocumentMark '-' || c.atDocumentMark '.'

end Cursor

end DocSite.Yaml
