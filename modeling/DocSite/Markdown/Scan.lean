/-!
# Scanning a text

A markdown text is scanned by positions. Every function here takes a position and answers the
position after what it recognises.

* `skipWhile` is the first position from a start at which a character fails a test.
* `lineEnd?` recognises a line feed, a carriage return or both together, and the end of the text;
  `blankLine?` is the same after blanks.
-/

namespace DocSite.Markdown

/-- A text with positions. -/
abbrev Source := Array Char

namespace Source

/-- Whether a character stands at a position. -/
def has (s : Source) (i : Nat) (c : Char) : Bool :=
  s[i]? == some c

/-- Whether the character at a position passes a test. -/
def test (s : Source) (i : Nat) (p : Char → Bool) : Bool :=
  s[i]?.any p

/-- The characters from one position up to another. -/
def slice (s : Source) (i j : Nat) : List Char :=
  (s.extract i j).toList

/-- The first position from `i` on at which `p` fails. -/
def skipWhile (s : Source) (p : Char → Bool) (i : Nat) : Nat :=
  if h : i < s.size then
    if p s[i] then skipWhile s p (i + 1) else i
  else i
termination_by s.size - i

/-- The position before the longest run that ends at `j` and passes `p`, not before `i`. -/
def skipWhileBack (s : Source) (p : Char → Bool) (i : Nat) : Nat → Nat
  | 0 => 0
  | j + 1 => if i ≤ j ∧ s.test j p then skipWhileBack s p i j else j + 1

/-- Whether the characters of a word stand at a position. -/
def hasWord (s : Source) (i : Nat) : List Char → Bool
  | [] => true
  | c :: rest => s.has i c && s.hasWord (i + 1) rest

/-- The first position from `i` on at which a word stands. -/
def find? (s : Source) (word : List Char) (i : Nat) : Option Nat :=
  if h : i < s.size then
    if s.hasWord i word then some i else find? s word (i + 1)
  else none
termination_by s.size - i

end Source

/-! ### Blanks and lines -/

/-- A blank that does not end a line. -/
def isInlineBlank (c : Char) : Bool :=
  c == ' ' || c == '\t' || c == '\x0b' || c == '\x0c'

/-- A character that ends a line. -/
def isLineBreak (c : Char) : Bool :=
  c == '\n' || c == '\r'

/-- A blank of ASCII. -/
def isAsciiBlank (c : Char) : Bool :=
  isInlineBlank c || isLineBreak c

/-- A punctuation character of ASCII. -/
def isAsciiPunctuation (c : Char) : Bool :=
  let n := c.toNat
  (33 ≤ n && n ≤ 47) || (58 ≤ n && n ≤ 64) || (91 ≤ n && n ≤ 96) || (123 ≤ n && n ≤ 126)

/-- A letter of ASCII. -/
def isLetter (c : Char) : Bool :=
  c.isAlpha

/-- A letter or a digit of ASCII. -/
def isLetterOrDigit (c : Char) : Bool :=
  c.isAlphanum

namespace Source

/-- The position after blanks. -/
def skipBlanks (s : Source) (i : Nat) : Nat :=
  s.skipWhile isInlineBlank i

/-- The position after the end of the line, if the line ends at `i`. -/
def lineEnd? (s : Source) (i : Nat) : Option Nat :=
  match s[i]? with
  | none => some i
  | some '\n' => some (i + 1)
  | some '\r' => some (if s.has (i + 1) '\n' then i + 2 else i + 1)
  | some _ => none

/-- The position after the end of the line, if only blanks precede it. -/
def blankLine? (s : Source) (i : Nat) : Option Nat :=
  s.lineEnd? (s.skipBlanks i)

/-- The position after a blank rest of the line, or `i` itself where the rest is not blank. -/
def afterBlankLine (s : Source) (i : Nat) : Nat :=
  (s.blankLine? i).getD i

/-- The position after the next line feed, or the end of the text. -/
def nextLine (s : Source) (i : Nat) : Nat :=
  min s.size (s.skipWhile (· != '\n') i + 1)

/-- The position after the run of a character. -/
def skipRun (s : Source) (c : Char) (i : Nat) : Nat :=
  s.skipWhile (· == c) i

/-- The position after a character, or `i` itself where it does not stand. -/
def skipOne (s : Source) (c : Char) (i : Nat) : Nat :=
  if s.has i c then i + 1 else i

end Source

end DocSite.Markdown
