import DocSite.Markdown.Scan
import DocSite.Text.CaseFold

/-!
# Parts of links

* `label?` recognises a label between square brackets and answers its normal form: blanks are
  collapsed and case is folded, so that two labels name the same definition iff they are equal.
* `destination?` recognises an address, `title?` the rest of a link after its address, and
  `autolink?` an address or a mail address between angle brackets.
-/

namespace DocSite.Markdown.Link

open Source

/-! ### Labels -/

/-- A label in its normal form. -/
abbrev Label := List Char

/-- What a label may do at the end of a line: the position where it goes on, if it may. -/
abbrev LabelStep := Nat → Option Nat

/-- The blanks of a label from `i` on, with at most one line end: the position after them. -/
def labelBlanks (s : Source) (step : LabelStep) : Nat → Bool → Nat → Option Nat
  | 0, _, _ => none
  | fuel + 1, broken, i =>
    if !s.test i isAsciiBlank then some i
    else match s.lineEnd? i with
      | none => labelBlanks s step fuel broken (i + 1)
      | some j =>
        if broken then none
        else match step j with
          | none => none
          | some k => labelBlanks s step fuel true k

/-- How much the characters of a label count towards its limit: blanks and escapes one each, and
other characters by their bytes beyond ASCII. -/
def weight (c : Char) : Nat :=
  if c.toNat < 0x80 then 0 else c.utf8Size

/-- The position after the closing bracket and the label's characters, given those before `i`,
newest first. In a table a backslash before a pipe is no part of the text. -/
def labelChars (s : Source) (inTable : Bool) (step : LabelStep) :
    Nat → List Char → Bool → Nat → Nat → Option (Nat × List Char)
  | 0, _, _, _, _ => none
  | fuel + 1, seen, blank, count, i =>
    if 1000 ≤ count then none
    else match s[i]? with
      | none => none
      | some '[' => none
      | some ']' => if blank then none else some (i + 1, seen)
      | some '\\' =>
        if inTable ∧ s.has (i + 1) '|' then
          labelChars s inTable step fuel ('|' :: seen) false count (i + 2)
        else if inTable ∧ s.has (i + 1) '\\' ∧ s.has (i + 2) '|' then
          labelChars s inTable step fuel ('|' :: '\\' :: seen) blank (count + 2) (i + 3)
        else match s[i + 1]? with
          | none => none
          | some c => labelChars s inTable step fuel (c :: '\\' :: seen) blank (count + 2) (i + 2)
      | some c =>
        if isAsciiBlank c then
          match labelBlanks s step (s.size + 1) false i with
          | none => none
          | some j => labelChars s inTable step fuel (' ' :: seen) blank (count + (j - i)) j
        else labelChars s inTable step fuel (c :: seen) false (count + weight c) (i + 1)

/-- The text without spaces at its start. -/
def dropSpaces (cs : List Char) : List Char :=
  cs.dropWhile (· == ' ')

/-- A label whose opening bracket stands before `i`: the position after its closing bracket and its
normal form. -/
def label? (s : Source) (inTable : Bool) (step : LabelStep) (i : Nat) : Option (Nat × Label) :=
  (labelChars s inTable step (s.size + 1) [] true 0 i).map fun (j, seen) =>
    (j, Text.fold (dropSpaces (dropSpaces seen).reverse))

/-! ### Destinations -/

/-- The position after an escaped character, if a backslash and punctuation stand at `i`. -/
def escaped? (s : Source) (i : Nat) : Option Nat :=
  if s.has i '\\' ∧ s.test (i + 1) isAsciiPunctuation then some (i + 2) else none

/-- The position after an address between angle brackets, the first of which was taken. -/
def angleDestination (s : Source) : Nat → Nat → Option Nat
  | 0, _ => none
  | fuel + 1, i =>
    match s[i]? with
    | none => none
    | some c =>
      if isLineBreak c ∨ c = '<' then none
      else if c = '>' then some (i + 1)
      else angleDestination s fuel ((escaped? s i).getD (i + 1))

/-- An address may hold parentheses nested so deep. -/
def maxNesting : Nat :=
  5

/-- The position after an address without angle brackets, `depth` parentheses being open. -/
def bareDestination (s : Source) : Nat → Nat → Nat → Option Nat
  | 0, _, _ => none
  | fuel + 1, depth, i =>
    let stop := if depth = 0 then some i else none
    match s[i]? with
    | none => stop
    | some c =>
      if c.toNat ≤ 32 then stop
      else if c = '(' then
        if maxNesting < depth then none else bareDestination s fuel (depth + 1) (i + 1)
      else if c = ')' then
        if depth = 0 then some i else bareDestination s fuel (depth - 1) (i + 1)
      else bareDestination s fuel depth ((escaped? s i).getD (i + 1))

/-- The position after an address. -/
def destination? (s : Source) (i : Nat) : Option Nat :=
  if s.has i '<' then angleDestination s (s.size + 1) (i + 1)
  else bareDestination s (s.size + 1) 0 i

/-! ### Titles -/

/-- The mark that closes a title opened by a mark. -/
def closing? (c : Char) : Option Char :=
  if c = '"' ∨ c = '\'' then some c else if c = '(' then some ')' else none

/-- The position after a title's closing mark, its opening mark being taken. The margins of further
lines are skipped. -/
def titleEnd (s : Source) (skip : Nat → Nat) (opening closing : Char) : Nat → Nat → Option Nat
  | 0, _ => none
  | fuel + 1, i =>
    match s[i]? with
    | none => none
    | some c =>
      if c = closing then some (i + 1)
      else if c = opening then none
      else match s.lineEnd? i with
        | some j => titleEnd s skip opening closing fuel (skip j)
        | none => titleEnd s skip opening closing fuel ((escaped? s i).getD (i + 1))

/-- The position after a title. -/
def title? (s : Source) (skip : Nat → Nat) (i : Nat) : Option Nat := do
  let opening ← s[i]?
  titleEnd s skip opening (← closing? opening) (s.size + 1) (i + 1)

/-- The position after blanks with at most one line end, and the next line's margin. -/
def separator (s : Source) (skip : Nat → Nat) (i : Nat) : Nat :=
  let i := s.skipBlanks i
  match s.lineEnd? i with
  | some j => s.skipBlanks (skip j)
  | none => i

/-- The position after the address and title in parentheses that follow a link's text. -/
def tail? (s : Source) (skip : Nat → Nat) (i : Nat) : Option Nat := do
  if !s.has i '(' then none
  let i := separator s skip (i + 1)
  let i := separator s skip (← destination? s i)
  let i := match title? s skip i with
    | some j => separator s skip j
    | none => i
  if s.has i ')' then some (i + 1) else none

/-! ### Autolinks -/

/-- A character of a scheme after its first letter. -/
def isSchemeChar (c : Char) : Bool :=
  isLetterOrDigit c || c == '.' || c == '-' || c == '+'

/-- The position after an address with a scheme and its closing angle bracket. -/
def uri? (s : Source) (i : Nat) : Option Nat :=
  if s.test i isLetter then
    let colon := s.skipWhile isSchemeChar (i + 1)
    if s.has colon ':' ∧ i + 2 ≤ colon ∧ colon ≤ i + 32 then
      let close := s.skipWhile (fun c => 32 < c.toNat && c != '<' && c != '>') (colon + 1)
      if s.has close '>' then some (close + 1) else none
    else none
  else none

/-- A character of a mail address before its at sign. -/
def isMailChar (c : Char) : Bool :=
  isLetterOrDigit c || ".!#$%&'*+/=?^_`\x7b|\x7d~-".toList.contains c

/-- The position after the labels of a mail address, which have points between them. -/
def mailLabels (s : Source) : Nat → Nat → Option Nat
  | 0, _ => none
  | fuel + 1, i =>
    let j := s.skipWhile (fun c => isLetterOrDigit c || c == '-') i
    if i = j ∨ i + 63 < j ∨ s.has i '-' ∨ s.has (j - 1) '-' then none
    else if s.has j '.' then mailLabels s fuel (j + 1)
    else some j

/-- The position after a mail address and its closing angle bracket. -/
def mail? (s : Source) (i : Nat) : Option Nat := do
  let sign := s.skipWhile isMailChar i
  if !s.has sign '@' || i == sign then none
  let close ← mailLabels s (s.size + 1) (sign + 1)
  if s.has close '>' then some (close + 1) else none

/-- The position after the address between angle brackets, the first of which was taken. -/
def autolink? (s : Source) (i : Nat) : Option Nat :=
  uri? s i <|> mail? s i

end DocSite.Markdown.Link
