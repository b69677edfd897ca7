import DocSite.Markdown.Event

/-!
# Nodes of a text

* `Node` is a piece of a leaf's text: one that is settled, a run of delimiters that is not, or a
  stretch of nodes, such as a link.
* `Node.events` is the walk over a node.
-/

namespace DocSite.Markdown

/-- A piece of a leaf's text. -/
inductive Node where
  | text (s : List Char)
  | code (s : List Char)
  | html
  | softBreak
  | hardBreak (backslash : Bool)
  | footnoteReference
  | delimiters (mark : Char) (count : Nat) (opens closes : Bool)
  | span (tag : Tag) (nodes : List Node)

/-- Whether a node has to be paired with another. -/
def Node.isPending : Node → Bool
  | .delimiters .. => true
  | _ => false

mutual

/-- The events of a node. A run that was never paired is text. -/
def Node.events : Node → List Event
  | .text s => [.text s]
  | .code s => [.code s]
  | .html => [.inlineHtml]
  | .softBreak => [.softBreak]
  | .hardBreak _ => [.hardBreak]
  | .footnoteReference => [.footnoteReference]
  | .delimiters mark count _ _ => [.text (List.replicate count mark)]
  | .span tag nodes => .start tag :: nodesEvents nodes ++ [.stop tag]

/-- The events of nodes in turn. -/
def nodesEvents : List Node → List Event
  | [] => []
  | n :: rest => n.events ++ nodesEvents rest

end

end DocSite.Markdown
