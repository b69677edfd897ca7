import DocSite.Markdown.Html
import DocSite.Markdown.Link
import DocSite.Markdown.Margin

/-!
# Markers of blocks

What starts a block stands at the beginning of a line, after the margin.

* `rule?`, `headingLevel?`, `underline?` and `fence?` recognise thematic breaks, headings that start
  with number signs, the underlines of headings, and code fences.
* `Cursor.takeListMarker` takes the marker of a list item, `Cursor.takeTaskMarker` a check box.
* `tableColumns?` recognises the line below a table's head.
* `interrupts` tells whether a line cannot continue the paragraph before it.
-/

namespace DocSite.Markdown

open Source

/-! ### Rules, headings, fences -/

/-- The position after a line that is a thematic break. -/
def rule? (s : Source) (i : Nat) : Option Nat :=
  match s[i]? with
  | none => none
  | some c =>
    if c = '*' ∨ c = '-' ∨ c = '_' then
      let j := s.skipWhile (fun d => d == c || d == ' ' || d == '\t') i
      if 3 ≤ (s.slice i j).count c then s.lineEnd? j else none
    else none

/-- The level of a heading that starts with number signs. -/
def headingLevel? (s : Source) (i : Nat) : Option Nat :=
  let level := s.skipRun '#' i - i
  if 1 ≤ level ∧ level ≤ 6 ∧ !s.test (i + level) (!isAsciiBlank ·) then some level else none

/-- The position after the underline of a heading, and the heading's level. -/
def underline? (s : Source) (i : Nat) : Option (Nat × Nat) :=
  let level? := if s.has i '=' then some 1 else if s.has i '-' then some 2 else none
  level?.bind fun level =>
    (s.blankLine? (s.skipRun (if level = 1 then '=' else '-') i)).map (·, level)

/-- The position after the run of a code fence, and its character. A fence of backticks has none in
the rest of its line. -/
def fence? (s : Source) (i : Nat) : Option (Nat × Char) :=
  match s[i]? with
  | none => none
  | some c =>
    if c = '\x60' ∨ c = '~' then
      let j := s.skipRun c i
      if j < i + 3 then none
      else if c = '\x60' ∧ (s.slice j (s.nextLine j)).contains '\x60' then none
      else some (j, c)
    else none

/-- The position after the fence that closes a code block. The end of the text closes it too. -/
def closingFence? (s : Source) (c : Char) (width i : Nat) : Option Nat :=
  if s.size ≤ i then some i
  else
    let j := s.skipRun c i
    if j < i + width then none
    else
      let j := s.skipRun ' ' j
      (s.lineEnd? j).map fun _ => j

/-! ### Lists -/

/-- A digit of a list number. -/
def isDigit (c : Char) : Bool :=
  c.isDigit

/-- The number of at most nine digits at `i`, and the position after it. -/
def listNumber? (s : Source) (i : Nat) : Option (Nat × Nat) :=
  let j := s.skipWhile isDigit i
  if i < j ∧ j ≤ i + 9 then
    some ((s.slice i j).foldl (fun n d => 10 * n + (d.toNat - 48)) 0, j)
  else none

/-- A mark of an unordered list. -/
def isBullet (c : Char) : Bool :=
  c == '-' || c == '+' || c == '*'

/-- The mark of an item, and the width of the item's margin. -/
structure ItemMarker where
  mark : Char
  indent : Nat

/-- The position after a list marker without the blank that has to follow it; its mark, its number
and its width. -/
def listMark? (s : Source) (i : Nat) : Option (Nat × Char × Nat) :=
  match s[i]? with
  | none => none
  | some c =>
    if isBullet c then some (i + 1, c, 0)
    else
      match listNumber? s i with
      | none => none
      | some (n, j) =>
        match s[j]? with
        | some d => if d = '.' ∨ d = ')' then some (j + 1, d, n) else none
        | none => none

/-- Takes the marker of a list item that is indented by `outer` columns. -/
def Cursor.takeListMarker (s : Source) (outer : Nat) (c : Cursor) : Option (ItemMarker × Cursor) :=
  match listMark? s c.pos with
  | none => none
  | some (j, mark, _) =>
    if isBullet mark ∧ (rule? s c.pos).isSome then none
    else
      let (found, after) := { c with pos := j }.takeAll s 1
      if found || after.atLineEnd s then
        let indent := outer + (j - c.pos) + 1
        if (s.blankLine? after.pos).isSome then some (⟨mark, indent⟩, after)
        else
          let (more, inner) := after.takeUpTo s 4
          if more < 4 then some (⟨mark, indent + more⟩, inner)
          else some (⟨mark, indent⟩, after)
      else none

/-- Takes a check box and answers whether it is checked. A blank has to follow it. -/
def Cursor.takeTaskMarker (s : Source) (c : Cursor) : Option (Bool × Cursor) := do
  let c ← (c.takeUpTo s 3).2.takeChar s '['
  let box ← s[c.pos]?
  let checked ← if isInlineBlank box then some false
    else if box = 'x' ∨ box = 'X' then some true else none
  let c ← { c with pos := c.pos + 1 }.takeChar s ']'
  if s.test c.pos isInlineBlank then some (checked, c) else none

/-! ### Tables -/

/-- A cell of the line below a table's head: colons at either end of hyphens. `hyphen` says whether
one was seen, and `started` whether anything was. -/
structure RulerState where
  columns : Nat := 0
  started : Bool := false
  hyphen : Bool := false
  anyHyphen : Bool := false
  anyPipe : Bool := false

/-- The position after the line below a table's head, and its state, from `i` on. -/
def rulerLine (s : Source) : Nat → RulerState → Nat → Option (Nat × RulerState)
  | 0, _, _ => none
  | fuel + 1, st, i =>
    match s.lineEnd? i with
    | some j => some (j, st)
    | none =>
      if s.has i ' ' then rulerLine s fuel st (i + 1)
      else if s.has i ':' then rulerLine s fuel { st with started := true } (i + 1)
      else if s.has i '-' then
        rulerLine s fuel { st with started := true, hyphen := true, anyHyphen := true } (i + 1)
      else if s.has i '|' then
        if st.hyphen then
          rulerLine s fuel
            { st with
              columns := st.columns + 1, started := false, hyphen := false, anyPipe := true }
            (i + 1)
        else none
      else none

/-- The line below a table's head: the position after it and the number of its columns. -/
def tableColumns? (s : Source) (i : Nat) : Option (Nat × Nat) := do
  let (width, c) := (Cursor.start i).takeUpTo s 4
  if 3 < width ∨ s.size ≤ c.pos then none
  let piped := s.has c.pos '|'
  let (j, st) ← rulerLine s (s.size + 1) { anyPipe := piped } (s.skipOne '|' c.pos)
  if st.anyPipe ∧ st.anyHyphen then
    some (j, if st.started then st.columns + 1 else st.columns)
  else none

/-- The number of cells of a head with so many pipes, the last of which stands at `last`. -/
def headColumns (s : Source) (pipes start last : Nat) : Nat :=
  let inner := if s.has (s.skipBlanks start) '|' then pipes - 1 else pipes
  if (s.blankLine? (last + 1)).isSome then inner else inner + 1

/-- The pipes of a line from `i` on that no backslash precedes: their number, the position of the
last one, and the start of the next line if there is one. -/
def linePipes (s : Source) : Nat → Nat → Nat → Bool → Nat → Option (Nat × Nat × Nat)
  | 0, _, _, _, _ => none
  | fuel + 1, pipes, last, escaped, i =>
    match s[i]? with
    | none => none
    | some c =>
      if c = '\\' then linePipes s fuel pipes last true (i + 1)
      else if isLineBreak c then (s.lineEnd? i).map (pipes, last, ·)
      else if c = '|' ∧ !escaped then linePipes s fuel (pipes + 1) i false (i + 1)
      else linePipes s fuel pipes last false (i + 1)

/-- Whether a table's head starts at `i`: a line whose cells are as many as the columns of the line
below it. -/
def startsTable (s : Source) (path : List Container) (i : Nat) : Bool :=
  match linePipes s (s.size + 1) 0 i false i with
  | none => false
  | some (pipes, last, next) =>
    let (whole, c) := margin s path next
    whole &&
      match tableColumns? s c.pos with
      | none => false
      | some (_, columns) => columns == headColumns s pipes i last

/-! ### Interruptions -/

/-- The position after the label and colon of a footnote definition, and the label. -/
def footnoteMarker? (s : Source) (inTable : Bool) (i : Nat) : Option (Nat × Link.Label) :=
  if s.has i '[' ∧ s.has (i + 1) '^' then
    match Link.label? s inTable (fun _ => none) (i + 2) with
    | some (j, label) => if s.has j ':' then some (j + 1, label) else none
    | none => none
  else none

/-- Whether two blank rests of lines follow. -/
def emptyItem (s : Source) (i : Nat) : Bool :=
  ((s.blankLine? i).bind s.blankLine?).isSome

/-- Whether a list item at `i` may interrupt a paragraph: outside the paragraph's container, or in a
table, always; else only if it is not empty and not numbered other than 1. -/
def itemInterrupts (s : Source) (inside inTable : Bool) (i : Nat) : Bool :=
  match listMark? s i with
  | none => false
  | some (j, mark, number) =>
    if s.has j ' ' || s.has j '\t' || (s.lineEnd? j).isSome then
      !inside || inTable || ((isBullet mark || number == 1) && !emptyItem s j)
    else false

/-- Whether the line whose content starts at `i` starts a block other than a table. `inside` says
whether it has the paragraph's whole margin. -/
def interruptsRow (s : Source) (inside inTable : Bool) (i : Nat) : Bool :=
  (s.lineEnd? i).isSome
    || (rule? s i).isSome
    || (headingLevel? s i).isSome
    || (fence? s i).isSome
    || s.has i '>'
    || itemInterrupts s inside inTable i
    || (s.has i '<' && ((Html.blockEnd? s (i + 1)).isSome || Html.startsBlock s (i + 1)))
    || (footnoteMarker? s inTable i).isSome

/-- Whether the line whose content starts at `i` cannot continue a paragraph. -/
def interrupts (s : Source) (path : List Container) (inside : Bool) (i : Nat) : Bool :=
  interruptsRow s inside false i || (s.has i '|' && startsTable s path i)

end DocSite.Markdown
