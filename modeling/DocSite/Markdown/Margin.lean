import DocSite.Markdown.Scan

/-!
# Margins of lines

Blocks are nested in containers, and each line of a container starts with the container's margin: a
quote mark, the indentation of a list item, or that of a footnote.

* `Cursor` walks over a line's start by columns; a tab reaches to the next multiple of four, and its
  columns may be taken one by one.
* `Cursor.containers` takes the margins of the open containers, outermost first, as far as the line
  has them. A blank line has the margin of items and footnotes.
-/

namespace DocSite.Markdown

/-! ### Columns -/

/-- A position at the start of a line. `origin` is where tabs are counted from, and `spare` the
number of columns of the last tab that are left. -/
structure Cursor where
  pos : Nat
  origin : Nat
  spare : Nat

namespace Cursor

/-- The start of a line. -/
def start (i : Nat) : Cursor :=
  ⟨i, i, 0⟩

/-- Takes up to `n` columns of blanks; answers how many are missing. -/
def takeColumns (s : Source) : Nat → Cursor → Nat × Cursor
  | 0, c => (0, c)
  | n + 1, c =>
    if 0 < c.spare then takeColumns s n { c with spare := c.spare - 1 }
    else if s.has c.pos ' ' then takeColumns s n { c with pos := c.pos + 1 }
    else if s.has c.pos '\t' then
      takeColumns s n ⟨c.pos + 1, c.pos + 1, 3 - (c.pos - c.origin) % 4⟩
    else (n + 1, c)

/-- Takes exactly `n` columns, or as many as there are. -/
def takeAll (s : Source) (n : Nat) (c : Cursor) : Bool × Cursor :=
  let (missing, c) := takeColumns s n c
  (missing == 0, c)

/-- Takes up to `n` columns; answers how many were taken. -/
def takeUpTo (s : Source) (n : Nat) (c : Cursor) : Nat × Cursor :=
  let (missing, c) := takeColumns s n c
  (n - missing, c)

/-- Takes all blanks and tabs. -/
def skipSpaces (s : Source) (c : Cursor) : Cursor :=
  { c with pos := s.skipWhile (fun c => c == ' ' || c == '\t') c.pos, spare := 0 }

/-- Whether the line ends here. -/
def atLineEnd (s : Source) (c : Cursor) : Bool :=
  !s.test c.pos (!isLineBreak ·)

/-- Takes one character, if it stands here. -/
def takeChar (s : Source) (ch : Char) (c : Cursor) : Option Cursor :=
  if s.has c.pos ch then some { c with pos := c.pos + 1 } else none

/-- Takes a quote mark and the column after it. -/
def takeQuoteMark (s : Source) (c : Cursor) : Option Cursor :=
  (c.takeChar s '>').map fun c => (c.takeAll s 1).2

end Cursor

/-! ### Containers -/

/-- A block that holds blocks. -/
inductive Container where
  | quote
  | list (tight : Bool) (marker : Char)
  | item (indent : Nat)
  | footnote (label : List Char)
  | table
deriving DecidableEq, Repr

namespace Container

/-- The cursor after the container's margin, if the line has it. -/
def takeMargin (s : Source) (c : Cursor) : Container → Option Cursor
  | quote => (c.takeAll s 3).2.takeQuoteMark s
  | item indent => indented indent
  | footnote _ => indented 4
  | list .. => some c
  | table => some c
where
  /-- Blanks of a width, or a blank line. -/
  indented (n : Nat) : Option Cursor :=
    let (found, after) := c.takeAll s n
    if found || after.atLineEnd s then some after else none

end Container

namespace Cursor

/-- The number of containers whose margins the line has, and the cursor after them. -/
def containers (s : Source) (c : Cursor) : List Container → Nat × Cursor
  | [] => (0, c)
  | k :: rest =>
    match k.takeMargin s c with
    | none => (0, c)
    | some c =>
      let (n, c) := containers s c rest
      (n + 1, c)

end Cursor

/-- The cursor after the margin of the line at `i`, and whether the line has the whole margin. -/
def margin (s : Source) (path : List Container) (i : Nat) : Bool × Cursor :=
  let (n, c) := (Cursor.start i).containers s path
  (n == path.length, c)

/-- The position after the margin of the line at `i`, as far as the line has it. -/
def skipMargin (s : Source) (path : List Container) (i : Nat) : Nat :=
  (margin s path i).2.pos

end DocSite.Markdown
