import DocSite.Markdown.Token

/-!
# Blocks

* `Block` is a block of a document: a leaf with its text, or a container with its blocks.
* `Outline` is a document that is being read: the containers that are open, with the blocks they
  have so far, and the definitions that were met. `Outline.push` adds a block to the innermost
  container, `Outline.enter` opens a container, `Outline.leave` closes the innermost one.
* A list is tight as long as no blank line stands between its items or between the blocks of an
  item; `Outline.finishList` keeps account of that where a block begins.
-/

namespace DocSite.Markdown

/-- Text cut into tokens. Links and HTML in it end before `stop`. -/
structure Leaf where
  tokens : List Token
  stop : Nat

/-- A block of a document. -/
inductive Block where
  | paragraph (text : Leaf)
  | heading (level : Nat) (text : Leaf)
  | code (text : List Char)
  | html
  | rule
  | taskMarker (checked : Bool)
  | rows (head : List Leaf) (body : List (List Leaf))
  | container (kind : Container) (children : List Block)

/-- An open container with its blocks, newest first. -/
structure Frame where
  kind : Container
  children : List Block := []

/-- A document that is being read. The innermost container comes first. -/
structure Outline where
  frames : List Frame := []
  done : List Block := []
  /-- Whether the last item that was opened has no block yet. -/
  freshItem : Bool := false
  /-- Whether a blank line precedes the position. -/
  blankBefore : Bool := false
  links : List Link.Label := []
  footnotes : List Link.Label := []

namespace Outline

/-- The open containers, outermost first. -/
def path (o : Outline) : List Container :=
  (o.frames.map (·.kind)).reverse

/-- Adds a block to the innermost container. -/
def push (o : Outline) (b : Block) : Outline :=
  match o.frames with
  | [] => { o with done := b :: o.done }
  | f :: rest => { o with frames := { f with children := b :: f.children } :: rest }

/-- Opens a container. -/
def enter (o : Outline) (kind : Container) : Outline :=
  { o with frames := { kind } :: o.frames }

/-- Closes the innermost container. -/
def leave (o : Outline) : Outline :=
  match o.frames with
  | [] => o
  | f :: rest =>
    let o := { o with frames := rest }.push (.container f.kind f.children.reverse)
    match f.kind with
    | .list true _ => { o with freshItem := false }
    | _ => o

/-- Closes the innermost `n` containers. -/
def leaveMany (o : Outline) : Nat → Outline
  | 0 => o
  | n + 1 => o.leave.leaveMany n

/-- Closes containers until `n` are open. -/
def leaveTo (o : Outline) (n : Nat) : Outline :=
  o.leaveMany (o.frames.length - n)

/-- Closes an item that starts with two blank lines. -/
def finishEmptyItem (o : Outline) : Outline :=
  let o' := match o.frames with
    | ⟨.item _, _⟩ :: _ => if o.freshItem && o.blankBefore then o.leave else o
    | _ => o
  { o' with freshItem := false }

/-- Marks the list whose item is innermost as loose. -/
def loosen (o : Outline) : Outline :=
  match o.frames with
  | f :: ⟨.list _ marker, children⟩ :: rest =>
    { o with frames := f :: ⟨.list false marker, children⟩ :: rest }
  | _ => o

/-- Prepares for a block that is no item of the innermost list: closes the list, and loosens the
list around it after a blank line. -/
def finishList (o : Outline) : Outline :=
  let o := o.finishEmptyItem
  let o := match o.frames with
    | ⟨.list .., _⟩ :: _ => o.leave
    | _ => o
  if o.blankBefore then { o.loosen with blankBefore := false } else o

/-- Prepares for an item with a mark: goes on with the innermost list if it has that mark, else
starts a list. -/
def continueList (o : Outline) (marker : Char) : Outline :=
  let o := o.finishEmptyItem
  match o.frames with
  | ⟨.list tight m, children⟩ :: rest =>
    if m = marker then
      if o.blankBefore then
        { o with frames := ⟨.list false m, children⟩ :: rest, blankBefore := false }
      else { o with frames := ⟨.list tight m, children⟩ :: rest }
    else { o.finishList.enter (.list true marker) with blankBefore := false }
  | _ :: _ => { o.finishList.enter (.list true marker) with blankBefore := false }
  | [] => { o.enter (.list true marker) with blankBefore := false }

/-- Takes note of a blank line. An item without a block yet goes on at any indentation after it. -/
def noteBlank (o : Outline) : Outline :=
  match o.frames with
  | ⟨.quote, _⟩ :: _ => o
  | ⟨.item indent, children⟩ :: rest =>
    { o with
      frames := ⟨.item (if o.freshItem then 0 else indent), children⟩ :: rest
      blankBefore := true }
  | _ => { o with blankBefore := true }

/-- The document, all containers closed. -/
def blocks (o : Outline) : List Block :=
  (o.leaveTo 0).done.reverse

end Outline

end DocSite.Markdown
