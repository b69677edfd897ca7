import DocSite.Markdown.Node

/-!
# Emphasis

Runs of delimiters are paired from left to right: a run that may end emphasis is matched with the
last run before it that fits. What lies between becomes a stretch of text; runs in between that
found no partner are text.

* `Opener` is a run that waits for its partner.
* `Bounds` remembers for each kind of closing run below which openers there is no partner.
* `emphasize` pairs the runs among the nodes of a leaf or a link, and `settle` does so where there
  are any.
-/

namespace DocSite.Markdown

/-- A run that may start emphasis, with the nodes between the opener before it and itself, newest
first. -/
structure Opener where
  mark : Char
  /-- How many delimiters are left of the run. -/
  count : Nat
  /-- How many delimiters the run had. -/
  width : Nat
  /-- Whether the run may also end emphasis. -/
  closes : Bool
  before : List Node

/-- The kinds of closing runs that are told apart. -/
inductive CloserKind where
  | tildes
  | oneSided (mark : Char)
  | twoSided (mark : Char) (width : Nat)
deriving DecidableEq, Repr

/-- For each kind of closing run, the number of openers among which it found no partner. -/
abbrev Bounds := List (CloserKind × Nat)

namespace Bounds

/-- The bound of one kind. -/
def of (b : Bounds) (k : CloserKind) : Nat :=
  (b.lookup k).getD 0

/-- The bounds with that of one kind replaced. -/
def set (b : Bounds) (k : CloserKind) (n : Nat) : Bounds :=
  (k, n) :: b.filter (·.1 ≠ k)

/-- The number of openers that a closing run need not look at. -/
def lower (b : Bounds) (mark : Char) (width : Nat) (both : Bool) : Nat :=
  if mark = '~' then b.of .tildes
  else
    let sided := b.of (.twoSided mark (width % 3))
    if both then sided else min sided (b.of (.oneSided mark))

/-- The bounds after a closing run found no partner among `n` openers. -/
def raise (b : Bounds) (mark : Char) (width : Nat) (both : Bool) (n : Nat) : Bounds :=
  if mark = '~' then b.set .tildes n
  else
    let b := if both || mark == '*' then b.set (.twoSided mark (width % 3)) n else b
    if both then b else b.set (.oneSided mark) n

/-- The bounds when only `n` openers are left. -/
def truncate (b : Bounds) (n : Nat) : Bounds :=
  b.map fun (k, m) => (k, min m n)

end Bounds

/-- What is known while nodes are read: the nodes after the last opener, newest first, the openers,
the last one first, and the bounds. -/
structure EmphasisState where
  nodes : List Node := []
  openers : List Opener := []
  bounds : Bounds := []

/-- Whether a closing run fits an opener. Of two runs of which one may do both, the widths must not
add up to a multiple of three unless the closing one's is. -/
def Opener.fits (o : Opener) (mark : Char) (width : Nat) (both : Bool) : Bool :=
  o.mark == mark && (mark != '~' || width == o.width)
    && ((!both && !o.closes) || (width + o.width) % 3 != 0 || width % 3 == 0)

/-- Delimiters as text. -/
def delimiterText (mark : Char) (count : Nat) : List Node :=
  if count = 0 then [] else [.text (List.replicate count mark)]

/-- The nodes after the openers in front become text, newest first. -/
def flattenOpeners (nodes : List Node) (os : List Opener) : List Node :=
  os.foldl (fun nodes o => nodes ++ delimiterText o.mark o.count ++ o.before) nodes

/-- The tag of so many delimiters, two or one. -/
def emphasisTag (mark : Char) (two : Bool) : Tag :=
  if mark = '~' then .strikethrough else if two then .strong else .emphasis

/-- Nodes within `count` pairs of delimiters: pairs of two from the inside, then one if `count` is
odd. -/
def wrap (mark : Char) : Nat → List Node → List Node
  | 0, nodes => nodes
  | 1, nodes => [.span (emphasisTag mark false) nodes]
  | n + 2, nodes => wrap mark n [.span (emphasisTag mark true) nodes]

/-- The opener that a closing run fits: those after it, itself and those before it. -/
def findOpener (mark : Char) (width : Nat) (both : Bool) :
    Nat → List Opener → Option (List Opener × Opener × List Opener)
  | 0, _ => none
  | _, [] => none
  | n + 1, o :: rest =>
    if o.fits mark width both then some ([], o, rest)
    else (findOpener mark width both n rest).map fun (after, found, rest) =>
      (o :: after, found, rest)

/-- Pairs a closing run with openers as long as delimiters of it are left. Answers how many are left
over. -/
def closeRun (mark : Char) (width : Nat) (both : Bool) :
    Nat → EmphasisState → Nat → EmphasisState × Nat
  | 0, st, count => (st, count)
  | fuel + 1, st, count =>
    if count = 0 then (st, 0)
    else
      let size := st.openers.length
      match findOpener mark width both (size - st.bounds.lower mark width both) st.openers with
      | none => ({ st with bounds := st.bounds.raise mark width both size }, count)
      | some (after, o, rest) =>
        let inner := (flattenOpeners st.nodes after).reverse
        let matched := min count o.count
        let wrapped := wrap mark matched inner
        let bounds := st.bounds.truncate rest.length
        let st : EmphasisState :=
          if matched < o.count then
            ⟨wrapped.reverse, { o with count := o.count - matched } :: rest, bounds⟩
          else ⟨wrapped.reverse ++ o.before, rest, bounds⟩
        closeRun mark width both fuel st (count - matched)

/-- Reads one node. -/
def EmphasisState.read (st : EmphasisState) : Node → EmphasisState
  | .delimiters mark count opens closes =>
    let (st, left) := if closes then closeRun mark count (opens && closes) (count + 1) st count
      else (st, count)
    if left = 0 then st
    else if opens then
      { st with
        nodes := []
        openers := ⟨mark, left, count, closes, st.nodes⟩ :: st.openers }
    else { st with nodes := delimiterText mark left ++ st.nodes }
  | n => { st with nodes := n :: st.nodes }

/-- Nodes with all pairs of delimiters made. -/
def emphasize (nodes : List Node) : List Node :=
  let st := nodes.foldl EmphasisState.read {}
  (flattenOpeners st.nodes st.openers).reverse

/-- A backslash that ends a text is no break. -/
def settleBreak : List Node → List Node
  | [] => []
  | [.hardBreak true] => [.text ['\\']]
  | n :: rest => n :: settleBreak rest

/-- The nodes of a leaf or a link with their emphasis. -/
def settle (nodes : List Node) : List Node :=
  if nodes.any Node.isPending then emphasize (settleBreak nodes) else nodes

end DocSite.Markdown
