/-!
# Events

* `Event` is a step of a walk over a document: the start or end of a block or of a stretch of text,
  a piece of text, or a break. `Tag` names what starts and ends.
-/

namespace DocSite.Markdown

/-- A block or a stretch of text that has a start and an end. -/
inductive Tag where
  | paragraph
  | heading (level : Nat)
  | codeBlock
  | htmlBlock
  | quote
  | list
  | item
  | footnote
  | table
  | tableHead
  | tableRow
  | tableCell
  | emphasis
  | strong
  | strikethrough
  | link
  | image
deriving DecidableEq, Repr

/-- A step of a walk over a document. -/
inductive Event where
  | start (tag : Tag)
  | stop (tag : Tag)
  | text (s : List Char)
  | code (s : List Char)
  | inlineHtml
  | softBreak
  | hardBreak
  | rule
  | taskMarker (checked : Bool)
  | footnoteReference
deriving DecidableEq, Repr

end DocSite.Markdown
