import DocSite.Text.Digit
import DocSite.Yaml.Cursor

/-!
# Scalars of YAML

* `Gap` is what stands between two words of a scalar; `Gap.text` folds it: a single line end is a
  space, and of several all but the first are kept.
* `plain?` reads a scalar without quotes, `quoted?` one in quotes and `block?` one that is written
  in lines of its own. Each answers the text and the place after it, and nothing where the text is
  not well formed.
-/

namespace DocSite.Yaml

/-! ### Gaps -/

/-- What stands between two words: blanks, or line ends with the blanks around them left out. -/
inductive Gap where
  | blanks (text : List Char)
  /-- The first line end and the others. -/
  | lines (first : List Char) (others : List Char)
deriving DecidableEq, Repr

namespace Gap

/-- What a gap stands for. -/
def text : Gap → List Char
  | blanks s => s
  | lines first others =>
    if first = ['\n'] then (if others.isEmpty then [' '] else others) else first ++ others

/-- Whether the gap has a line end. -/
def hasLines : Gap → Bool
  | blanks _ => false
  | lines .. => true

/-- The gap with a blank. After a line end it changes nothing. -/
def addBlank : Gap → Char → Gap
  | blanks s, c => blanks (s ++ [c])
  | g, _ => g

/-- The gap with a line end. Blanks before the first one are dropped. -/
def addLine : Gap → List Char → Gap
  | blanks _, b => lines b []
  | lines first others, b => lines first (others ++ b)

end Gap

/-- The gap that starts here, and the place after it. After a line end no tab may stand left of the
column `least`. -/
def gap? (least : Nat) : Nat → Gap → Cursor → Option (Gap × Cursor)
  | 0, g, c => some (g, c)
  | fuel + 1, g, c =>
    match c.peek? 0 with
    | none => some (g, c)
    | some d =>
      if isBlank d then
        if g.hasLines && c.column < least && d == '\t' then none
        else gap? least fuel (g.addBlank d) (c.skip 1)
      else if isLineBreak d then gap? least fuel (g.addLine c.breakText) c.skipLine
      else some (g, c)

/-! ### Without quotes -/

/-- An indicator that ends a word of a flow collection. -/
def isFlowIndicator (c : Char) : Bool :=
  c == ',' || c == '[' || c == ']' || c == '\x7b' || c == '\x7d'

/-- The word that starts here: up to a blank, a line end, a colon before either and, in a flow
collection, its indicators. There a colon may not stand before an indicator. -/
def plainWord? (inFlow : Bool) : Nat → Cursor → Option (List Char × Cursor)
  | 0, c => some ([], c)
  | fuel + 1, c =>
    match c.peek? 0 with
    | none => some ([], c)
    | some d =>
      if c.wordEnds 0 then some ([], c)
      else if inFlow && d == ':' && c.test 1 (fun e => isFlowIndicator e || e == '?') then none
      else if (d == ':' && c.wordEnds 1) || (inFlow && isFlowIndicator d) then some ([], c)
      else (plainWord? inFlow fuel (c.skip 1)).map fun (ds, c) => (d :: ds, c)

/-- The words and gaps of a plain scalar, `pending` being the gap before the next word. Answers also
whether the scalar is followed by a line end. -/
def plainWords? (inFlow : Bool) (margin : Nat) :
    Nat → Gap → Cursor → Option (List Char × Bool × Cursor)
  | 0, pending, c => some ([], pending.hasLines, c)
  | fuel + 1, pending, c =>
    if c.atDocumentEdge || c.has 0 '#' then some ([], pending.hasLines, c)
    else do
      let (word, c) ← plainWord? inFlow (c.rest.length + 1) c
      let front := if word.isEmpty then [] else pending.text ++ word
      let pending := if word.isEmpty then pending else .blanks []
      if c.atEnd || !c.wordEnds 0 then return (front, pending.hasLines, c)
      else
        let (pending, c) ← gap? margin (c.rest.length + 1) pending c
        if !inFlow && c.column < margin then return (front, pending.hasLines, c)
        else
          let (more, lines, c) ← plainWords? inFlow margin fuel pending c
          return (front ++ more, lines, c)

/-- The plain scalar that starts here. Outside flow collections its lines start at column `margin`
or further right. Answers also whether it is followed by a line end. -/
def plain? (inFlow : Bool) (margin : Nat) (c : Cursor) : Option (List Char × Bool × Cursor) :=
  plainWords? inFlow margin (c.rest.length + 1) (.blanks []) c

/-! ### In quotes -/

/-- The character of a letter after a backslash. -/
def escape? (c : Char) : Option Char :=
  if c = ' ' ∨ c = '"' ∨ c = '/' ∨ c = '\\' ∨ c = '\t' then some c
  else [('0', '\x00'), ('a', '\x07'), ('b', '\x08'), ('t', '\t'), ('n', '\n'), ('v', '\x0b'),
    ('f', '\x0c'), ('r', '\r'), ('e', '\x1b'), ('N', '\u0085'), ('_', '\u00a0'), ('L', '\u2028'),
    ('P', '\u2029')].lookup c

/-- How many hexadecimal digits follow a letter after a backslash. -/
def escapeWidth? (c : Char) : Option Nat :=
  [('x', 2), ('u', 4), ('U', 8)].lookup c

/-- The character of an escape whose backslash stands here. -/
def escaped? (c : Cursor) : Option (Char × Cursor) := do
  let d ← c.peek? 1
  match escapeWidth? d with
  | none => return (← escape? d, c.skip 2)
  | some width =>
    let digits := ((c.skip 2).takeWhile Text.isHexDigit).take width
    let n := Text.numberOf 16 digits
    if digits.length = width ∧ n.isValidChar then return (Char.ofNat n, c.skip (2 + width))
    else none

/-- The word that starts here: up to the closing quote, a blank or a line end. Answers also whether
the word ends with a line end after a backslash. -/
def quotedWord? (double : Bool) : Nat → Cursor → Option (List Char × Bool × Cursor)
  | 0, c => some ([], false, c)
  | fuel + 1, c =>
    let cons := fun (d : Char) (c : Cursor) =>
      (quotedWord? double fuel c).map fun (ds, joined, c) => (d :: ds, joined, c)
    match c.peek? 0 with
    | none => some ([], false, c)
    | some d =>
      if c.wordEnds 0 then some ([], false, c)
      else if !double && d == '\'' then
        if c.has 1 '\'' then cons d (c.skip 2) else some ([], false, c)
      else if double && d == '"' then some ([], false, c)
      else if double && d == '\\' then
        if c.test 1 isLineBreak then some ([], true, (c.skip 1).skipLine)
        else match escaped? c with
          | none => none
          | some (e, c) => cons e c
      else cons d (c.skip 1)

/-- The words and gaps up to the closing quote. -/
def quotedWords? (double : Bool) : Nat → Cursor → Option (List Char × Cursor)
  | 0, _ => none
  | fuel + 1, c =>
    if c.atDocumentEdge || c.atEnd then none
    else do
      let (word, joined, c) ← quotedWord? double (c.rest.length + 1) c
      if c.has 0 (if double then '"' else '\'') then return (word, c.skip 1)
      else
        let start := if joined then Gap.lines [] [] else .blanks []
        let (gap, c) ← gap? 0 (c.rest.length + 1) start c
        let (more, c) ← quotedWords? double fuel c
        return (word ++ gap.text ++ more, c)

/-- The scalar whose opening quote stands here. -/
def quoted? (double : Bool) (c : Cursor) : Option (List Char × Cursor) :=
  quotedWords? double (c.rest.length + 1) (c.skip 1)

/-! ### In lines of its own -/

/-- What becomes of the line ends after the last line. -/
inductive Chomping where
  | strip
  | clip
  | keep
deriving DecidableEq, Repr

/-- The chomping indicator that may stand here. -/
def chomping? (c : Cursor) : Option Chomping :=
  if c.has 0 '+' then some .keep else if c.has 0 '-' then some .strip else none

/-- The digit that may stand here. -/
def indentation? (c : Cursor) : Option Nat :=
  match c.peek? 0 with
  | none => none
  | some d => if d.isDigit then some (Text.digitValue d) else none

/-- The indicators of a block scalar in either order: the chomping, the indentation and the place
after them. -/
def blockIndicators (c : Cursor) : Chomping × Option Nat × Cursor :=
  match chomping? c with
  | some chomping =>
    match indentation? (c.skip 1) with
    | some n => (chomping, some n, c.skip 2)
    | none => (chomping, none, c.skip 1)
  | none =>
    match indentation? c with
    | none => (.clip, none, c)
    | some n =>
      match chomping? (c.skip 1) with
      | some chomping => (chomping, some n, c.skip 2)
      | none => (.clip, some n, c.skip 1)

/-- Empty lines, and the rightmost column that their indentation reaches. The indentation ends at
the column `indent` where it is known; no tab may stand within it. -/
def blankLines? (indent : Option Nat) :
    Nat → List Char → Nat → Cursor → Option (List Char × Nat × Cursor)
  | 0, breaks, widest, c => some (breaks, widest, c)
  | fuel + 1, breaks, widest, c =>
    let spaces := (c.takeWhile (· == ' ')).length
    let c := c.skip (match indent with | none => spaces | some n => min spaces (n - c.column))
    let widest := max widest c.column
    if indent.all (c.column < ·) && c.has 0 '\t' then none
    else if c.atBreak then blankLines? indent fuel (breaks ++ c.breakText) widest c.skipLine
    else some (breaks, widest, c)

/-- The lines of a block scalar from the first on. `first` is the line end before the line here,
`more` are the empty lines after it, and `blank` tells whether the line before starts with a blank.
Answers the text, the line end after the last line and the empty lines after that. -/
def blockLines? (folded : Bool) (indent : Nat) :
    Nat → List Char → List Char → Bool → Cursor →
      Option (List Char × List Char × List Char × Cursor)
  | 0, first, more, _, c => some ([], first, more, c)
  | fuel + 1, first, more, blank, c =>
    if c.column ≠ indent ∨ c.atEnd then some ([], first, more, c)
    else do
      let startsBlank := c.test 0 isBlank
      let front :=
        if folded && first == ['\n'] && !blank && !startsBlank then
          (if more.isEmpty then [' '] else more)
        else first ++ more
      let line := c.takeWhile (!isLineBreak ·)
      let c := c.lineEnd
      let (breaks, _, after) ← blankLines? (some indent) (c.rest.length + 1) [] 0 c.skipLine
      let (text, first, more, c) ←
        blockLines? folded indent fuel c.breakText breaks startsBlank after
      return (front ++ line ++ text, first, more, c)

/-- The scalar whose bar or angle bracket stands here. Its lines are indented by its indicator
further than the block around it, or as far as the first of them. -/
def block? (folded : Bool) (margin : Nat) (c : Cursor) : Option (List Char × Cursor) := do
  let (chomping, increment, c) := blockIndicators (c.skip 1)
  if increment = some 0 then none
  else
    let c ← c.skipRest?
    let known := increment.map (margin - 1 + ·)
    let (breaks, widest, c) ← blankLines? known (c.rest.length + 1) [] 0 c
    let indent := known.getD (max widest (max margin 1))
    let (text, first, more, c) ← blockLines? folded indent (c.rest.length + 1) [] breaks false c
    return (match chomping with
      | .strip => text
      | .clip => text ++ first
      | .keep => text ++ first ++ more, c)

end DocSite.Yaml
