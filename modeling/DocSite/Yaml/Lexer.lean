import DocSite.Yaml.Name
import DocSite.Yaml.Scalar

/-!
# From text to tokens

Indentation and colons make tokens that have no character of their own. A colon turns what precedes
it into a key, so tokens are put in front of others; a token that may still become a key is a
`Candidate`.

* `Lexer` is a place in a text with the open blocks and flow collections and the tokens so far.
* `Lexer.step?` reads one token, and nothing where none can be read.
* `tokenize` answers the tokens of a text. Where reading stops early, the tokens from the first
  candidate on are withheld, and no `textEnd` is at the end.
-/

namespace DocSite.Yaml

/-- A token that becomes a key if a colon follows on its line within 1024 characters. -/
structure Candidate where
  /-- The number of tokens before it. -/
  position : Nat
  /-- Whether the text is wrong if it does not become a key. -/
  required : Bool
  place : Cursor
deriving DecidableEq, Repr

/-- How many characters a key may have, with what stands between it and its colon. -/
def maxKeyLength : Nat := 1024

/-- A place in a text, with what is open there. -/
structure Lexer where
  cursor : Cursor
  tokens : Array Token := #[]
  /-- The least column of what stands within the innermost block; zero outside all blocks. -/
  margin : Nat := 0
  /-- The margins around the innermost block. -/
  outerMargins : List Nat := []
  /-- The candidate of the innermost flow collection, or of the blocks. -/
  candidate : Option Candidate := none
  /-- The candidates around the innermost flow collection. -/
  outerCandidates : List (Option Candidate) := []
  /-- Whether a key may start here. -/
  keyAllowed : Bool := true

namespace Lexer

/-- Whether the place is in a flow collection. -/
def inFlow (l : Lexer) : Bool :=
  !l.outerCandidates.isEmpty

/-- Adds a token. -/
def push (l : Lexer) (t : Token) : Lexer :=
  { l with tokens := l.tokens.push t }

/-- Adds a token before the token at a position. -/
def insert (l : Lexer) (i : Nat) (t : Token) : Lexer :=
  { l with tokens := l.tokens.insertIdxIfInBounds i t }

/-- Moves to a place. -/
def goto (l : Lexer) (c : Cursor) : Lexer :=
  { l with cursor := c }

/-- Says whether a key may start after this. -/
def allowKey (l : Lexer) (allowed : Bool) : Lexer :=
  { l with keyAllowed := allowed }

/-! ### Blank space -/

/-- Skips blanks, comments and line ends. A tab is skipped where no key may start. -/
def skipSpace : Nat → Lexer → Lexer
  | 0, l => l
  | fuel + 1, l =>
    let c := l.cursor
    let c := if c.column == 0 && c.has 0 byteOrderMark then c.skip 1 else c
    let c := c.skipWhile fun d => d == ' ' || (d == '\t' && (l.inFlow || !l.keyAllowed))
    let c := if c.has 0 '#' then c.lineEnd else c
    if c.atBreak then
      skipSpace fuel { l with cursor := c.skipLine, keyAllowed := l.keyAllowed || !l.inFlow }
    else l.goto c

/-! ### Candidates -/

/-- Whether a candidate is too far away to become a key at a place. -/
def Candidate.isStale (k : Candidate) (c : Cursor) : Bool :=
  k.place.line < c.line || k.place.index + maxKeyLength < c.index

/-- Drops a candidate that has become stale. -/
def dropStale (c : Cursor) : Option Candidate → Option (Option Candidate)
  | none => some none
  | some k =>
    if !Candidate.isStale k c then some (some k)
    else if k.required then none
    else some none

/-- Drops all candidates that have become stale. -/
def dropStaleCandidates (l : Lexer) : Option Lexer := do
  let outer ← l.outerCandidates.mapM (dropStale l.cursor)
  let inner ← dropStale l.cursor l.candidate
  return { l with candidate := inner, outerCandidates := outer }

/-- Drops the candidate. -/
def dropCandidate (l : Lexer) : Option Lexer :=
  if l.candidate.any (·.required) then none else some { l with candidate := none }

/-- Makes the next token a candidate, if a key may start here. The first token of a line of a block
is required to be one. -/
def offerCandidate (l : Lexer) : Option Lexer :=
  if !l.keyAllowed then some l
  else do
    let l ← l.dropCandidate
    let required := !l.inFlow && l.margin == l.cursor.column + 1
    return { l with candidate := some ⟨l.tokens.size, required, l.cursor⟩ }

/-! ### Blocks -/

/-- Opens a block at a column that lies within the innermost one. -/
def openBlock (l : Lexer) (column position : Nat) (t : Token) : Lexer :=
  if l.inFlow || column < l.margin then l
  else { l.insert position t with margin := column + 1, outerMargins := l.margin :: l.outerMargins }

/-- Closes blocks until the margin is at most `least`, given the margins around the innermost. -/
def closeBlocksTo (least : Nat) (tokens : Array Token) (margin : Nat) :
    List Nat → Array Token × Nat × List Nat
  | [] => (tokens, margin, [])
  | outer :: rest =>
    if margin ≤ least then (tokens, margin, outer :: rest)
    else closeBlocksTo least (tokens.push .blockEnd) outer rest

/-- Closes the blocks whose column is right of where the next token starts. -/
def closeBlocks (l : Lexer) (least : Nat) : Lexer :=
  if l.inFlow then l
  else
    let (tokens, margin, outer) := closeBlocksTo least l.tokens l.margin l.outerMargins
    { l with tokens := tokens, margin := margin, outerMargins := outer }

/-! ### Tokens -/

/-- Reads an indicator of `n` characters. -/
def indicator (l : Lexer) (n : Nat) (t : Token) : Lexer :=
  (l.goto (l.cursor.skip n)).push t

/-- Ends all blocks before what stands between documents. -/
def endDocument (l : Lexer) : Option Lexer :=
  ((l.closeBlocks 0).allowKey false).dropCandidate

/-- Reads the end of the text. -/
def readEnd (l : Lexer) : Option Lexer :=
  l.endDocument.map (·.push .textEnd)

/-- Reads a directive. -/
def readDirective (l : Lexer) : Option Lexer := do
  let l ← l.endDocument
  let (t, c) ← directive? l.cursor
  return (l.goto c).push t

/-- Reads the opening bracket of a flow collection. -/
def openFlow (l : Lexer) (t : Token) : Option Lexer := do
  let l ← l.offerCandidate
  return { l.indicator 1 t with
    candidate := none, outerCandidates := l.candidate :: l.outerCandidates, keyAllowed := true }

/-- Reads the closing bracket of a flow collection. -/
def closeFlow (l : Lexer) (t : Token) : Option Lexer := do
  let l ← l.dropCandidate
  let l := (l.indicator 1 t).allowKey false
  match l.outerCandidates with
  | [] => return l
  | k :: rest => return { l with candidate := k, outerCandidates := rest }

/-- Reads the comma of a flow collection. -/
def readFlowEntry (l : Lexer) : Option Lexer :=
  l.dropCandidate.map fun l => (l.indicator 1 .flowEntry).allowKey true

/-- Opens a block for an indicator that stands here, where a key may start. -/
def openBlockHere (l : Lexer) (t : Token) : Option Lexer :=
  if l.inFlow then some l
  else if !l.keyAllowed then none
  else some (l.openBlock l.cursor.column l.tokens.size t)

/-- Reads the dash of a sequence. -/
def readBlockEntry (l : Lexer) : Option Lexer := do
  let l ← l.openBlockHere .blockSequenceStart
  let l ← l.dropCandidate
  return (l.indicator 1 .blockEntry).allowKey true

/-- Reads the question mark of a key. -/
def readKey (l : Lexer) : Option Lexer := do
  let l ← l.openBlockHere .blockMappingStart
  let l ← l.dropCandidate
  return (l.indicator 1 .key).allowKey !l.inFlow

/-- Reads the colon of a value. The candidate, if there is one, becomes its key. -/
def readValue (l : Lexer) : Option Lexer :=
  match l.candidate with
  | some k =>
    let l := (l.insert k.position .key).openBlock k.place.column k.position .blockMappingStart
    some ({ l with candidate := none, keyAllowed := false }.indicator 1 .value)
  | none => do
    let l ← l.openBlockHere .blockMappingStart
    return (l.indicator 1 .value).allowKey !l.inFlow

/-- Reads a token that may become a key. -/
def readNode (l : Lexer) (read : Cursor → Option (Token × Cursor)) : Option Lexer := do
  let l ← l.offerCandidate
  let (t, c) ← read l.cursor
  return ((l.goto c).push t).allowKey false

/-- Reads a scalar without quotes. A line end after it lets a key start. -/
def readPlain (l : Lexer) : Option Lexer := do
  let l ← l.offerCandidate
  let (text, lines, c) ← plain? l.inFlow l.margin l.cursor
  return ((l.goto c).push (.scalar .plain text)).allowKey lines

/-- Reads a scalar that is written in lines of its own. -/
def readBlockScalar (l : Lexer) (folded : Bool) : Option Lexer := do
  let l ← (l.allowKey true).dropCandidate
  let (text, c) ← block? folded l.margin l.cursor
  return (l.goto c).push (.scalar (if folded then .folded else .literal) text)

/-- Whether a plain scalar may start with `d`, which stands here. -/
def startsPlain (l : Lexer) (d : Char) : Bool :=
  (!isBlank d && !"-?:,[]\x7b\x7d#&*!|>'\"%@`".toList.contains d)
    || (d == '-' && !l.cursor.test 1 isBlank)
    || (!l.inFlow && (d == '?' || d == ':') && !l.cursor.wordEnds 1)

/-- Reads the token that starts with `d`, which stands here. -/
def readToken (l : Lexer) (d : Char) : Option Lexer :=
  let c := l.cursor
  if d = '%' ∧ c.column = 0 then l.readDirective
  else if c.atDocumentMark '-' then l.endDocument.map (·.indicator 3 .documentStart)
  else if c.atDocumentMark '.' then l.endDocument.map (·.indicator 3 .documentEnd)
  else if d = '[' then l.openFlow .flowSequenceStart
  else if d = '\x7b' then l.openFlow .flowMappingStart
  else if d = ']' then l.closeFlow .flowSequenceEnd
  else if d = '\x7d' then l.closeFlow .flowMappingEnd
  else if d = ',' then l.readFlowEntry
  else if d = '-' ∧ c.wordEnds 1 then l.readBlockEntry
  else if d = '?' ∧ (l.inFlow ∨ c.wordEnds 1) then l.readKey
  else if d = ':' ∧ (l.inFlow ∨ c.wordEnds 1) then l.readValue
  else if d = '*' then l.readNode fun c => (anchorName? c).map fun (n, c) => (.alias n, c)
  else if d = '&' then l.readNode fun c => (anchorName? c).map fun (n, c) => (.anchor n, c)
  else if d = '!' then l.readNode fun c => (tag? c l.inFlow).map fun (t, c) => (.tag t, c)
  else if d = '|' ∧ !l.inFlow then l.readBlockScalar false
  else if d = '>' ∧ !l.inFlow then l.readBlockScalar true
  else if d = '\'' then
    l.readNode fun c => (quoted? false c).map fun (s, c) => (.scalar .singleQuoted s, c)
  else if d = '"' then
    l.readNode fun c => (quoted? true c).map fun (s, c) => (.scalar .doubleQuoted s, c)
  else if l.startsPlain d then l.readPlain
  else none

/-- Reads what starts at the next token. -/
def step? (l : Lexer) : Option Lexer := do
  let l := skipSpace (l.cursor.rest.length + 1) l
  let l ← l.dropStaleCandidates
  let l := l.closeBlocks (l.cursor.column + 1)
  match l.cursor.peek? 0 with
  | none => l.readEnd
  | some d => l.readToken d

/-- The tokens before the first candidate. -/
def settledTokens (l : Lexer) : List Token :=
  let positions := (l.candidate :: l.outerCandidates).filterMap fun k => k.map (·.position)
  l.tokens.toList.take (positions.foldl min l.tokens.size)

/-- Reads tokens up to the end of the text, or up to where none can be read. -/
def run : Nat → Lexer → List Token
  | 0, l => l.settledTokens
  | fuel + 1, l =>
    match l.step? with
    | none => l.settledTokens
    | some next =>
      if next.tokens.back? = some .textEnd then next.tokens.toList else run fuel next

end Lexer

/-- The tokens of a text. -/
def tokenize (s : List Char) : List Token :=
  if s.all isReadable then Lexer.run (s.length + 1) { cursor := ⟨s, 0, 0, 0⟩ } else []

end DocSite.Yaml
