import DocSite.Markdown.Block
import DocSite.Markdown.Emphasis

/-!
# Links, code and HTML within a text

The tokens of a leaf are read from left to right. Brackets that are open are kept on a stack, each
with the nodes that precede it; code, HTML and links take the tokens they span out of the rest.

* `Scope` is what a leaf's text can refer to.
* `resolve` reads the tokens of a leaf and pairs the delimiters among its nodes. Those within a link
  are paired within the link.
-/

namespace DocSite.Markdown

open Source

/-- What the text of a leaf can refer to. The source ends where the leaf ends. -/
structure Scope where
  source : Source
  path : List Container
  links : List Link.Label
  footnotes : List Link.Label

namespace Scope

/-- Whether the leaf is a table's cell. -/
def inTable (sc : Scope) : Bool :=
  sc.path.getLast? == some .table

/-- The position after the margin of the line at `i`. -/
def skip (sc : Scope) (i : Nat) : Nat :=
  skipMargin sc.source sc.path i

end Scope

/-! ### Code spans -/

/-- The text between backticks: line ends and the margins after them are one space, and in a table
no backslash stands before a pipe. -/
def codeText (sc : Scope) (stop : Nat) : Nat → Nat → List Char
  | 0, _ => []
  | fuel + 1, i =>
    if stop ≤ i then []
    else match sc.source[i]? with
      | none => []
      | some c =>
        if isLineBreak c then ' ' :: codeText sc stop fuel (sc.skip (i + 1))
        else if c = '\\' ∧ sc.inTable ∧ sc.source.has (i + 1) '|' then
          '|' :: codeText sc stop fuel (i + 2)
        else c :: codeText sc stop fuel (i + 1)

/-- The text without one space at either end, unless it is all spaces. -/
def stripSpaces (cs : List Char) : List Char :=
  if cs.head? == some ' ' && cs.getLast? == some ' ' && !cs.all (· == ' ') then
    cs.tail.dropLast
  else cs

/-- The rest after the first run of so many backticks, and the token of that run. -/
def closingBackticks? (count : Nat) : List Token → Option (Token × List Token)
  | [] => none
  | t :: rest =>
    match t.kind with
    | .backticks n _ => if n = count then some (t, rest) else closingBackticks? count rest
    | _ => closingBackticks? count rest

/-! ### Open brackets -/

/-- What a closing bracket may make of an opening one. A disabled one stays text. -/
inductive BracketKind where
  | link
  | image
  | disabled
deriving DecidableEq, Repr

/-- An open bracket and the nodes between the bracket before it and itself, newest first. -/
structure OpenBracket where
  kind : BracketKind
  start : Nat
  stop : Nat
  before : List Node

/-- What is known while tokens are read: the nodes after the last open bracket, newest first, and
the open brackets, the last one first. -/
structure InlineState where
  nodes : List Node := []
  brackets : List OpenBracket := []

namespace InlineState

/-- Adds a node. -/
def push (st : InlineState) (n : Node) : InlineState :=
  { st with nodes := n :: st.nodes }

/-- The text of an open bracket. -/
def bracketText (sc : Scope) (b : OpenBracket) : Node :=
  .text (sc.source.slice b.start b.stop)

/-- The nodes with all open brackets as text, newest first. -/
def flatten (sc : Scope) (st : InlineState) : List Node :=
  st.brackets.foldl (fun nodes b => nodes ++ bracketText sc b :: b.before) st.nodes

/-- Disables the brackets that could still start a link: links hold no links. -/
def disableLinks (st : InlineState) : InlineState :=
  { st with brackets := st.brackets.map fun b =>
      if b.kind = .link then { b with kind := .disabled } else b }

end InlineState

/-! ### Links -/

/-- The tokens that end after `i`; the first of them starts at `i` or later. -/
def tokensAfter (i : Nat) (ts : List Token) : List Token :=
  match ts.dropWhile (·.stop ≤ i) with
  | [] => []
  | t :: rest => { t with start := max t.start i } :: rest

/-- What follows a closing bracket. -/
inductive Reference where
  | label (stop : Nat) (label : Link.Label)
  | collapsed
  | shortcut

/-- The position after the closing bracket of a label of a footnote or of a link. -/
def labelAt? (sc : Scope) (i : Nat) : Option (Nat × Link.Label × Bool) :=
  let s := sc.source
  if !s.has i '[' then none
  else
    let note := if s.has (i + 1) '^' ∧ !s.has (i + 2) ']' then
        Link.label? s sc.inTable (fun _ => none) (i + 2)
      else none
    match note with
    | some (j, label) => some (j, label, true)
    | none =>
      (Link.label? s sc.inTable (fun j => some (sc.skip j)) (i + 1)).map fun (j, label) =>
        (j, label, false)

/-- The reference that the tokens after a closing bracket write. -/
def referenceOf (sc : Scope) : List Token → Reference
  | [] => .shortcut
  | t :: _ =>
    if t.kind = .text true then .shortcut
    else if sc.source.has t.start '[' ∧ sc.source.has (t.start + 1) ']' then .collapsed
    else match labelAt? sc t.start with
      | some (j, label, false) => .label j label
      | _ => .shortcut

/-- What a closing bracket turns out to be. -/
inductive Closing where
  /-- A link whose tokens end where the rest starts. -/
  | link (rest : List Token)
  /-- A reference to a footnote. -/
  | footnote
  /-- Text; the rest may have a closing bracket that was tried in vain. -/
  | text (rest : List Token)

/-- The tokens whose first closing bracket after `i` was tried in vain. -/
def markTried (i : Nat) : List Token → List Token
  | [] => []
  | t :: rest => if i < t.stop then { t with kind := .closeBracket false } :: rest
    else t :: markTried i rest

/-- What the closing bracket `t` of `b` is, given the tokens after it. -/
def closingOf (sc : Scope) (b : OpenBracket) (t : Token) (viable : Bool) (rest : List Token) :
    Closing :=
  match Link.tail? sc.source sc.skip t.stop with
  | some j => .link (tokensAfter j rest)
  | none =>
    let own : Closing → List Token → Closing := fun failed after =>
      if !viable then failed
      else match labelAt? sc (b.stop - 1) with
        | some (j, label, note) =>
          if j ≠ t.stop then failed
          else if note then (if sc.footnotes.contains label then .footnote else failed)
          else if sc.links.contains label then .link after else failed
        | none => failed
    match referenceOf sc rest with
    | .label j label =>
      if sc.links.contains label then .link ((rest.dropWhile (·.stop ≤ j - 1)).drop 1)
      else .text (markTried (j - 1) rest)
    | .collapsed => own (.text rest) (rest.drop 2)
    | .shortcut => own (.text rest) rest

/-! ### Reading tokens -/

/-- The text of a token that stands for itself. -/
def Token.asText (sc : Scope) (t : Token) : Node :=
  .text (sc.source.slice t.start t.stop)

/-- Reads the closing bracket `t`. Answers the state after it and the tokens that are left. -/
def closeBracket (sc : Scope) (st : InlineState) (t : Token) (viable : Bool) (rest : List Token) :
    InlineState × List Token :=
  match st.brackets with
  | [] => (st.push (t.asText sc), rest)
  | b :: more =>
    let failed : InlineState :=
      ⟨t.asText sc :: st.nodes ++ InlineState.bracketText sc b :: b.before, more⟩
    if b.kind = .disabled then (failed, rest)
    else match closingOf sc b t viable rest with
      | .text rest => (failed, rest)
      | .link rest =>
        let tag := if b.kind = .image then Tag.image else Tag.link
        let st : InlineState := ⟨.span tag (settle st.nodes.reverse) :: b.before, more⟩
        (if b.kind = .link then st.disableLinks else st, rest)
      | .footnote =>
        let bang := if b.kind = .image then [Node.text ['!']] else []
        (⟨.footnoteReference :: bang ++ (InlineState.flatten sc ⟨b.before, more⟩), []⟩, rest)

/-- Reads one token. Answers the state after it and the tokens that are left. -/
def readToken (sc : Scope) (st : InlineState) (t : Token) (rest : List Token) :
    InlineState × List Token :=
  match t.kind with
  | .text _ => (st.push (t.asText sc), rest)
  | .literal text => (st.push (.text text), rest)
  | .delimiters mark count opens closes => (st.push (.delimiters mark count opens closes), rest)
  | .softBreak => (st.push .softBreak, rest)
  | .hardBreak backslash => (st.push (.hardBreak backslash), rest)
  | .bracket => (⟨[], ⟨.link, t.start, t.stop, st.nodes⟩ :: st.brackets⟩, rest)
  | .imageBracket => (⟨[], ⟨.image, t.start, t.stop, st.nodes⟩ :: st.brackets⟩, rest)
  | .closeBracket viable => closeBracket sc st t viable rest
  | .backticks count escaped =>
    let count := if escaped then count - 1 else count
    match (if count = 0 then none else closingBackticks? count rest) with
    | none => (st.push (t.asText sc), rest)
    | some (close, rest) =>
      let text := stripSpaces (codeText sc close.start (sc.source.size + 1) t.stop)
      let st := if escaped then st.push (.text ['\x60']) else st
      (st.push (.code text), rest)
  | .angle =>
    match rest with
    | [] => (st.push (t.asText sc), rest)
    | next :: _ =>
      match Link.autolink? sc.source next.start with
      | some j =>
        let text := Node.text (sc.source.slice (t.start + 1) (j - 1))
        (st.push (.span .link [text]), tokensAfter j rest)
      | none =>
        match Html.inline? sc.source sc.skip next.start with
        | some j => (st.push .html, tokensAfter j rest)
        | none => (st.push (t.asText sc), rest)

/-- Reads tokens. -/
def readTokens (sc : Scope) : Nat → InlineState → List Token → InlineState
  | 0, st, _ => st
  | _, st, [] => st
  | fuel + 1, st, t :: rest =>
    let (st, rest) := readToken sc st t rest
    readTokens sc fuel st rest

/-- The nodes of a leaf's tokens. -/
def resolve (sc : Scope) (ts : List Token) : List Node :=
  settle ((readTokens sc ts.length {} ts).flatten sc).reverse

end DocSite.Markdown
