import DocSite.Markdown.Entity
import DocSite.Markdown.Marker
import DocSite.Text.Blank
import DocSite.Text.Punctuation

/-!
# Tokens of a line

The text of a paragraph, heading or table cell is cut into tokens line by line. Some tokens mean
something only together with others: delimiter runs, backticks, brackets and angle brackets.

* `tokenizeLine` cuts one line, or one cell of a table row, from a position on. It answers the
  tokens, the position after the line, and how the line ends.
* `canOpen` and `canClose` tell whether a run of delimiters may start or end emphasis.
* `Entity.reference?` recognises a character reference.
-/

namespace DocSite.Markdown

open Source

/-- What a token is. -/
inductive TokenKind where
  | text (escaped : Bool)
  | literal (text : List Char)
  | delimiters (mark : Char) (count : Nat) (opens closes : Bool)
  | backticks (count : Nat) (escaped : Bool)
  | angle
  | bracket
  | imageBracket
  | closeBracket (viable : Bool)
  | softBreak
  | hardBreak (backslash : Bool)
deriving DecidableEq, Repr

/-- A token with the positions between which it stands. -/
structure Token where
  kind : TokenKind
  start : Nat
  stop : Nat
deriving DecidableEq, Repr

/-! ### Character references -/

namespace Entity

/-- The character of a code point; zero stands for the replacement character. -/
def ofCodePoint? (n : Nat) : Option Char :=
  if n = 0 then some '\ufffd' else if n.isValidChar then some (Char.ofNat n) else none

/-- The position after a numeric reference whose number starts at `i`, and its character. -/
def numeric? (s : Source) (base limit : Nat) (p : Char → Bool) (i : Nat) :
    Option (Nat × List Char) :=
  let j := s.skipWhile p i
  if i < j ∧ j ≤ i + limit ∧ s.has j ';' then
    (ofCodePoint? (Text.numberOf base (s.slice i j))).map
      (j + 1, [·])
  else none

/-- The position after a character reference at an ampersand, and its text. -/
def reference? (s : Source) (i : Nat) : Option (Nat × List Char) :=
  if s.has (i + 1) '#' then
    if s.has (i + 2) 'x' ∨ s.has (i + 2) 'X' then numeric? s 16 6 Text.isHexDigit (i + 3)
    else numeric? s 10 7 Char.isDigit (i + 2)
  else
    let j := s.skipWhile isLetterOrDigit (i + 1)
    if s.has j ';' then (lookup? (s.slice (i + 1) j)).map (j + 1, ·) else none

end Entity

/-! ### Delimiters -/

/-- How a line is cut: as text, as text that may be the head of a table, or as the cells of a row.
-/
inductive LineMode where
  | plain
  | head
  | row
deriving DecidableEq, Repr

/-- Whether a pipe that no backslash precedes stands before `i`, on or after `start`. -/
def afterPipe (s : Source) (start i : Nat) : Bool :=
  start < i && s.has (i - 1) '|' && !(start + 1 < i && s.has (i - 2) '\\')

/-- Whether the run of `count` delimiters at `i` may start emphasis. `start` is where the line's
text starts. -/
def canOpen (s : Source) (mode : LineMode) (start i count : Nat) (mark : Char) : Bool :=
  match s[i + count]? with
  | none => false
  | some next =>
    if Text.isBlank next then false
    else match (if i = start then none else s[i - 1]?) with
      | none => true
      | some prev =>
        if mode = .row ∧ afterPipe s start i then true
        else if mode = .row ∧ next = '|' then false
        else if mark = '*' ∧ !Text.isPunctuation next then true
        else if mark = '~' ∧ 1 < count then true
        else if mark = '~' ∧ prev = '~' ∧ !Text.isPunctuation next then true
        else Text.isBlank prev || Text.isPunctuation prev

/-- Whether the run of `count` delimiters at `i` may end emphasis. -/
def canClose (s : Source) (mode : LineMode) (start i count : Nat) (mark : Char) : Bool :=
  match (if i = start then none else s[i - 1]?) with
  | none => false
  | some prev =>
    if Text.isBlank prev then false
    else match s[i + count]? with
      | none => true
      | some next =>
        if mode = .row ∧ afterPipe s start i then false
        else if mode = .row ∧ next = '|' then true
        else if (mark = '*' ∨ (mark = '~' ∧ 1 < count)) ∧ !Text.isPunctuation prev then true
        else if mark = '~' ∧ prev = '~' then true
        else Text.isBlank next || Text.isPunctuation next

/-! ### Lines -/

/-- How a line of text ends. -/
inductive LineBreak where
  | none
  | soft (start stop : Nat)
  | hard (backslash : Bool) (start stop : Nat)
  | tableHead (columns : Nat)
deriving DecidableEq, Repr

/-- A line that was cut into tokens. -/
structure Line where
  tokens : List Token
  stop : Nat
  lineBreak : LineBreak

/-- What is known while a line is cut: the tokens before the pending text, newest first; where the
pending text starts and whether a backslash precedes it; and the pipes that were seen. -/
structure LineState where
  tokens : List Token := []
  pending : Nat
  escaped : Bool := false
  pipes : Nat := 0
  lastPipe : Nat

namespace LineState

/-- Ends the pending text at `i`. -/
def flush (st : LineState) (i : Nat) : LineState :=
  if st.pending < i then
    { st with
      tokens := ⟨.text st.escaped, st.pending, i⟩ :: st.tokens
      pending := i, escaped := false }
  else { st with pending := i, escaped := false }

/-- Ends the pending text at `i` and adds a token from `i` to `j`. -/
def add (st : LineState) (kind : TokenKind) (i j : Nat) : LineState :=
  let st := st.flush i
  { st with tokens := ⟨kind, i, j⟩ :: st.tokens, pending := j }

/-- Ends the pending text at `i`; the text from `j` on is escaped. -/
def escape (st : LineState) (i j : Nat) (escaped : Bool) : LineState :=
  { st.flush i with pending := j, escaped := escaped }

/-- The line with all its tokens in order. -/
def line (st : LineState) (stop : Nat) (lineBreak : LineBreak) : Line :=
  ⟨st.tokens.reverse, stop, lineBreak⟩

/-- The line that ends without a break, its text ending before the blanks that precede `i`. -/
def close (s : Source) (st : LineState) (i : Nat) : Line :=
  (st.flush (s.skipWhileBack isInlineBlank st.pending i)).line i .none

end LineState

/-- The columns of the table whose head is the line from `start` up to the line end at `i`, and the
position after the line below it. -/
def tableBelow? (s : Source) (path : List Container) (st : LineState) (start next : Nat) :
    Option (Nat × Nat) :=
  if st.pipes = 0 then none
  else
    let (whole, c) := margin s path next
    if !whole then none
    else match tableColumns? s c.pos with
      | some (j, columns) =>
        if columns = headColumns s st.pipes start st.lastPipe then some (j, columns) else none
      | none => none

/-- Ends a line at the line end at `i`, after which stands `next`. -/
def endLine (s : Source) (path : List Container) (mode : LineMode) (start : Nat) (st : LineState)
    (i next : Nat) : Line :=
  if mode = .row then st.close s i
  else
    let backslashes := i - s.skipWhileBack (· == '\\') 0 i
    if backslashes % 2 = 1 ∧ next < s.size then
      (st.flush (i - 1)).line next (.hard true (i - 1) next)
    else match (if mode = .head then tableBelow? s path st start next else none) with
      | some (j, columns) => st.line j (.tableHead columns)
      | none =>
        let text := s.skipWhileBack isInlineBlank 0 i
        if text + 2 ≤ i then (st.flush text).line next (.hard false text next)
        else (st.flush text).line next (.soft i next)

/-- Takes what stands at `i`, which is `c`: the next state and position. -/
def lineStep (s : Source) (mode : LineMode) (start : Nat) (st : LineState) (i : Nat) (c : Char) :
    LineState × Nat :=
  if c = '\\' then
    if s.test (i + 1) isAsciiPunctuation then
      if s.has (i + 1) '\x60' then
        let j := s.skipRun '\x60' (i + 1)
        let st := st.escape i (i + 1) false
        (st.add (.backticks (j - (i + 1)) true) (i + 1) j, j)
      else if mode = .row ∧ s.has (i + 1) '|' then (st.escape i (i + 1) false, i + 2)
      else if mode = .row ∧ s.has (i + 1) '\\' ∧ s.has (i + 2) '|' then
        (st.escape i (i + 2) true, i + 3)
      else (st.escape i (i + 1) true, i + 2)
    else (st, i + 1)
  else if c = '*' ∨ c = '_' ∨ c = '~' then
    let j := s.skipRun c i
    let opens := canOpen s mode start i (j - i) c
    let closes := canClose s mode start i (j - i) c
    if (opens || closes) ∧ (c ≠ '~' ∨ j ≤ i + 2) then
      (st.add (.delimiters c (j - i) opens closes) i j, j)
    else (st, j)
  else if c = '\x60' then
    let j := s.skipRun '\x60' i
    (st.add (.backticks (j - i) false) i j, j)
  else if c = '<' ∧ !s.has (i + 1) '\\' then (st.add .angle i (i + 1), i + 1)
  else if c = '!' ∧ s.has (i + 1) '[' then (st.add .imageBracket i (i + 2), i + 2)
  else if c = '[' then (st.add .bracket i (i + 1), i + 1)
  else if c = ']' then (st.add (.closeBracket true) i (i + 1), i + 1)
  else if c = '&' then
    match Entity.reference? s i with
    | some (j, text) => (st.add (.literal text) i j, j)
    | none => (st, i + 1)
  else if c = '|' ∧ ¬(i ≠ 0 ∧ s.has (i - 1) '\\') then
    ({ st with pipes := st.pipes + 1, lastPipe := i }, i + 1)
  else (st, i + 1)

/-- Cuts the rest of a line from `i` on. -/
def cutLine (s : Source) (path : List Container) (mode : LineMode) (start : Nat) :
    Nat → LineState → Nat → Line
  | 0, st, i => st.close s i
  | fuel + 1, st, i =>
    match s[i]? with
    | none => st.close s i
    | some c =>
      if isLineBreak c then endLine s path mode start st i ((s.lineEnd? i).getD (i + 1))
      else if mode = .row ∧ c = '|' ∧ ¬(i ≠ 0 ∧ s.has (i - 1) '\\') then st.close s i
      else
        let (st, j) := lineStep s mode start st i c
        cutLine s path mode start fuel st j

/-- Cuts one line, or one cell of a row, from `start` on. -/
def tokenizeLine (s : Source) (path : List Container) (mode : LineMode) (start : Nat) : Line :=
  cutLine s path mode start (s.size + 1) { pending := start, lastPipe := start } start

end DocSite.Markdown
