import DocSite.Text.LetterCase

/-!
# Lowercase of a text

Characters are mapped one by one with `lower`, except the capital sigma, whose lowercase depends
on its place in a word.

* `endsWord` says that a sigma ends a word: before it, past case-ignorable characters, stands a
  cased one, and after it, past case-ignorable characters, stands none.
* `lowercase` writes such a sigma as U+03C2 and every other one as U+03C3.
-/

namespace DocSite.Text

/-- Whether the first character that is not case-ignorable is cased. -/
def startsCased (s : List Char) : Bool :=
  match s.dropWhile isCaseIgnorable with
  | [] => false
  | c :: _ => isCased c

/-- The state of `startsCased`, read backwards, after one more character. -/
def casedBefore (before : Bool) (c : Char) : Bool :=
  if isCaseIgnorable c then before else isCased c

/-- The lowercase of `s`, where `before` says whether a cased character precedes it. -/
def lowercaseFrom (before : Bool) : List Char → List Char
  | [] => []
  | c :: rest =>
    (if c = '\u03a3' then [if before && !startsCased rest then '\u03c2' else '\u03c3']
      else lower c) ++ lowercaseFrom (casedBefore before c) rest

/-- The lowercase of a text. -/
def lowercase (s : List Char) : List Char :=
  lowercaseFrom false s

end DocSite.Text
