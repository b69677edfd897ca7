import DocSite.Markdown.Definition

/-!
# Reading blocks

A document is read block by block. At the start of a line the margins of the open containers are
taken and those that the line does not continue are closed; then new containers are opened, and what
is left is a leaf.

* `Outline.readBlock` reads one block, or one blank line, and answers the position after it.
* `outline` reads a whole document.
-/

namespace DocSite.Markdown

open Source

/-! ### Code -/

/-- A piece of a line of code: the spare columns of a tab as spaces, then the text up to the end of
the line, whose carriage return is dropped. -/
def codeLine (s : Source) (spare i j : Nat) : List Char :=
  List.replicate spare ' ' ++
    if s.has (j - 2) '\r' ∧ 2 ≤ j then s.slice i (j - 2) ++ s.slice (max i (j - 1)) j
    else s.slice i j

/-- The lines of a fenced block from `i` on: their text and the position after the block. -/
def fencedLines (s : Source) (path : List Container) (mark : Char) (width indent : Nat) :
    Nat → Nat → List Char × Nat
  | 0, i => ([], i)
  | fuel + 1, i =>
    let (inside, c) := margin s path i
    if !inside then ([], i)
    else
      let c := (c.takeAll s indent).2
      let (deep, close) := c.takeAll s (4 - indent)
      match (if deep then none else closingFence? s mark width close.pos) with
      | some j => ([], s.afterBlankLine j)
      | none =>
        let j := s.nextLine c.pos
        let (rest, stop) := fencedLines s path mark width indent fuel j
        (codeLine s c.spare c.pos j ++ rest, stop)

/-- The lines of an indented block from `i` on, newest first: the text of each and whether it is
blank; the position after the block, and whether the last line was blank. -/
def indentedLines (s : Source) (path : List Container) :
    Nat → List (List Char × Bool) → Nat → Nat → Bool → List (List Char × Bool) × Nat × Bool
  | 0, lines, _, i, blank => (lines, i, blank)
  | fuel + 1, lines, spare, i, blank =>
    let j := s.nextLine i
    let lines := (codeLine s spare i j, blank) :: lines
    let (inside, c) := margin s path j
    let (deep, c) := c.takeAll s 4
    if !inside || !(deep || c.atLineEnd s) || c.pos == s.size then (lines, j, blank)
    else indentedLines s path fuel lines c.spare c.pos (s.blankLine? c.pos).isSome

/-! ### HTML -/

/-- The position after an HTML block that ends with the line that has a word. -/
def htmlUntil (s : Source) (path : List Container) (word : List Char) : Nat → Nat → Nat
  | 0, i => i
  | fuel + 1, i =>
    let j := s.nextLine i
    let (inside, c) := margin s path j
    let closed := (s.find? word i).any (· + word.length ≤ j)
    if !inside || closed || c.pos == s.size then j
    else htmlUntil s path word fuel c.pos

/-- The position after an HTML block that ends before a blank line. -/
def htmlUntilBlank (s : Source) (path : List Container) : Nat → Nat → Nat
  | 0, i => i
  | fuel + 1, i =>
    let j := s.nextLine i
    let (inside, c) := margin s path j
    if !inside || c.atLineEnd s then j
    else if c.pos = s.size ∨ (s.blankLine? c.pos).isSome then j
    else htmlUntilBlank s path fuel c.pos

/-! ### Tables -/

/-- The cells of a row from `i` on, and the position after the row. -/
def rowCells (s : Source) (path : List Container) : Nat → Nat → List Leaf × Nat
  | 0, i => ([], i)
  | fuel + 1, i =>
    let i := s.skipBlanks (s.skipOne '|' i)
    match s.lineEnd? i with
    | some j => ([], j)
    | none =>
      let line := tokenizeLine s path .row i
      let (cells, stop) := rowCells s path fuel line.stop
      (⟨line.tokens, line.stop⟩ :: cells, stop)

/-- So many cells at most are added to the rows of one table. -/
def maxAddedCells : Nat :=
  Nat.pow 2 18

/-- The row with exactly `columns` cells: empty ones are added, surplus ones dropped. -/
def fitRow (columns stop : Nat) (cells : List Leaf) : List Leaf :=
  cells.take columns ++ List.replicate (columns - cells.length) ⟨[], stop⟩

/-- The rows of a table's body from `i` on, and the position after them. -/
def bodyRows (s : Source) (path : List Container) (columns : Nat) :
    Nat → Nat → Nat → List (List Leaf) × Nat
  | 0, _, i => ([], i)
  | fuel + 1, added, i =>
    let (inside, c) := margin s path i
    let c := c.skipSpaces s
    if !inside || interruptsRow s true true c.pos then ([], i)
    else
      let (cells, stop) := rowCells s path (s.size + 1) c.pos
      let added := added + (columns - cells.length)
      if cells.isEmpty ∨ maxAddedCells < added then ([], i)
      else
        let (rows, last) := bodyRows s path columns fuel added stop
        (fitRow columns stop cells :: rows, last)

/-- A table whose head starts at `head` and whose body starts at `body`. -/
def readTable (s : Source) (path : List Container) (columns head body : Nat) : Block × Nat :=
  let (cells, stop) := rowCells s path (s.size + 1) head
  let (rows, last) := bodyRows s path columns (s.size + 1) (columns - cells.length) body
  (.rows (fitRow columns stop cells) rows, last)

/-! ### Headings and paragraphs -/

/-- The token of a break that lies within a text. -/
def LineBreak.token? : LineBreak → Option Token
  | .soft i j => some ⟨.softBreak, i, j⟩
  | .hard backslash i j => some ⟨.hardBreak backslash, i, j⟩
  | _ => Option.none

/-- The backslash of a hard break as text. -/
def LineBreak.backslash? : LineBreak → List Token
  | .hard true i _ => [⟨.text false, i, i + 1⟩]
  | _ => []

/-- The end of a heading's text without its closing number signs. -/
def headingEnd (s : Source) (start stop : Nat) : Nat :=
  let text := s.skipWhileBack (fun c => c == '\n' || c == '\r' || c == ' ') start stop
  let signs := s.skipWhileBack (· == '#') start text
  if signs ≤ start then start
  else
    let blank := s.skipWhileBack (· == ' ') start signs
    if blank < signs then blank else text

/-- Tokens whose last one ends at `stop`. -/
def endLast (stop : Nat) : List Token → List Token
  | [] => []
  | [t] => [{ t with stop }]
  | t :: rest => t :: endLast stop rest

/-- A heading of a level whose number signs end before `i`. -/
def readHeading (s : Source) (path : List Container) (level i : Nat) : Block × Nat :=
  match s.lineEnd? i with
  | some j => (.heading level ⟨[], j⟩, j)
  | none =>
    let start := s.skipBlanks i
    let line := tokenizeLine s path .plain start
    let tokens := line.tokens ++ line.lineBreak.backslash?
    let stop := headingEnd s start line.stop
    let tokens := if stop = start then tokens.dropLast else endLast stop tokens
    (.heading level ⟨tokens, line.stop⟩, line.stop)

/-- The paragraph that starts at `start`, whose tokens before `i` are given newest first; or the
heading or table it turns out to be. -/
def readParagraph (s : Source) (path : List Container) (start : Nat) :
    Nat → List Token → Nat → Block × Nat
  | 0, tokens, i => (.paragraph ⟨tokens.reverse, i⟩, i)
  | fuel + 1, tokens, i =>
    let line := tokenizeLine s path (if i = start then .head else .plain) i
    match line.lineBreak with
    | .tableHead columns => readTable s path columns i line.stop
    | lineBreak =>
      let tokens := line.tokens.reverse ++ tokens
      let ended := lineBreak.backslash? ++ tokens
      let next := line.stop
      let (inside, c) := margin s path next
      let (deep, c) := c.takeAll s 4
      match (if deep || !inside then none else underline? s c.pos) with
      | some (j, level) => (.heading level ⟨ended.reverse, j⟩, j)
      | none =>
        if !deep && interrupts s path inside c.pos then (.paragraph ⟨ended.reverse, next⟩, next)
        else
          let c := c.skipSpaces s
          if c.atLineEnd s then (.paragraph ⟨ended.reverse, next⟩, next)
          else readParagraph s path start fuel (lineBreak.token?.toList ++ tokens) c.pos

/-! ### Blocks -/

namespace Outline

/-- Opens the containers that start at a cursor. Answers the cursor after their markers; or, where
the rest of the line is blank after a marker that takes it, the position of the next line. -/
def openContainers (s : Source) : Nat → Outline → Cursor → Outline × (Cursor ⊕ Nat)
  | 0, o, c => (o, .inl c)
  | fuel + 1, o, c =>
    let (outer, inner) := c.takeUpTo s 4
    if 4 ≤ outer then (o, .inl c)
    else match footnoteMarker? s false inner.pos with
      | some (j, label) =>
        let o := o.finishList
        let o := match o.frames with
          | ⟨.footnote _, _⟩ :: _ => o.leave
          | _ => o
        let o := { o.enter (.footnote label) with footnotes := label :: o.footnotes }
        let i := s.skipBlanks j
        match s.lineEnd? i with
        | some next => (o, .inr next)
        | none => openContainers s fuel o (.start i)
      | none =>
        match inner.takeListMarker s outer with
        | some (marker, after) =>
          let o := (o.continueList marker.mark).enter (.item marker.indent)
          match s.blankLine? after.pos with
          | some next => ({ o with freshItem := true }, .inr next)
          | none =>
            match after.takeTaskMarker s with
            | some (checked, after) =>
              openContainers s fuel (o.push (.taskMarker checked)) after
            | none => openContainers s fuel o after
        | none =>
          match inner.takeQuoteMark s with
          | some after => openContainers s fuel (o.finishList.enter .quote) after
          | none => (o, .inl c)

/-- Reads definitions of links from `i` on. Answers the position after them, and whether a paragraph
goes on there. -/
def readDefinitions (s : Source) : Nat → Outline → Nat → Outline × Nat × Bool
  | 0, o, i => (o, i, true)
  | fuel + 1, o, i =>
    match definition? s o.path i with
    | none => (o, i, true)
    | some (j, label) =>
      let o := { o with links := label :: o.links }
      let next := s.afterBlankLine j
      let (inside, c) := margin s o.path next
      let (deep, c) := c.takeAll s 4
      if !deep && interrupts s o.path inside c.pos then (o, next, false)
      else readDefinitions s fuel o (c.skipSpaces s).pos

/-- Reads the leaf at a cursor whose line is not blank. -/
def readLeaf (s : Source) (o : Outline) (c : Cursor) : Outline × Nat :=
  let path := o.path
  let (indent, c) := c.takeUpTo s 4
  let i := c.pos
  if indent = 4 then
    let (lines, j, blank) := indentedLines s path (s.size + 1) [] c.spare i false
    let kept := lines.dropWhile (·.2)
    ({ o.push (.code (kept.reverse.flatMap (·.1))) with blankBefore := blank }, j)
  else
    let html := if s.has i '<' then
        match Html.blockEnd? s (i + 1) with
        | some word => some (htmlUntil s path word (s.size + 1) i)
        | none =>
          if Html.startsBlock s (i + 1) || Html.wholeLineTag s i then
            some (htmlUntilBlank s path (s.size + 1) i)
          else none
      else none
    match html with
    | some j => (o.push .html, j)
    | none =>
    match rule? s i with
    | some j => (o.push .rule, j)
    | none =>
    match headingLevel? s i with
    | some level =>
      let (block, j) := readHeading s path level (i + level)
      (o.push block, j)
    | none =>
    match fence? s i with
    | some (j, mark) =>
      let (text, stop) := fencedLines s path mark (j - i) indent (s.size + 1) (s.nextLine j)
      (o.push (.code text), stop)
    | none =>
      let (o, j, more) := readDefinitions s (s.size + 1) o i
      if more then
        let (block, stop) := readParagraph s path j (s.size + 1) [] j
        (o.push block, stop)
      else (o, j)

/-- Reads one block or one blank line at the start of the line at `i`. -/
def readBlock (s : Source) (o : Outline) (i : Nat) : Outline × Nat :=
  let (n, c) := (Cursor.start i).containers s o.path
  match (o.leaveTo n).openContainers s (s.size + 1) c with
  | (o, .inr next) => (o, next)
  | (o, .inl c) =>
    match s.blankLine? c.pos with
    | some next => (o.noteBlank, next)
    | none => readLeaf s o.finishList c

/-- Reads the blocks from `i` on. -/
def read (s : Source) : Nat → Outline → Nat → Outline
  | 0, o, _ => o
  | fuel + 1, o, i =>
    if s.size ≤ i then o
    else
      let (o, j) := o.readBlock s i
      read s fuel o j

end Outline

/-- The outline of a document, all containers closed. -/
def outline (s : Source) : Outline :=
  (Outline.read s (s.size + 1) {} 0).leaveTo 0

end DocSite.Markdown
