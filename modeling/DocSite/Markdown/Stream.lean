import DocSite.Markdown.Inline
import DocSite.Markdown.Layout

/-!
# The events of a document

* `Block.events` is the walk over a block, and `events` the walk over a document.
* Paragraphs of a tight list give only the events of their text.
-/

namespace DocSite.Markdown

/-- What the leaves of a document share: its text and its definitions. -/
structure Definitions where
  source : Source
  links : List Link.Label
  footnotes : List Link.Label

namespace Definitions

/-- The events of a leaf's text. -/
def leafEvents (d : Definitions) (path : List Container) (text : Leaf) : List Event :=
  nodesEvents (resolve ⟨d.source.extract 0 text.stop, path, d.links, d.footnotes⟩ text.tokens)

/-- The events of a table's cells. -/
def cellsEvents (d : Definitions) (path : List Container) (cells : List Leaf) : List Event :=
  cells.flatMap fun cell => .start .tableCell :: d.leafEvents path cell ++ [.stop .tableCell]

/-- The tag of a container. -/
def containerTag : Container → Tag
  | .quote => .quote
  | .list .. => .list
  | .item _ => .item
  | .footnote _ => .footnote
  | .table => .table

/-- Whether a container on the path is an item of a tight list. -/
def inTightItem (path : List Container) : Bool :=
  match path.reverse with
  | .item _ :: .list tight _ :: _ => tight
  | _ => false

mutual

/-- The events of a block within the containers of a path. -/
def blockEvents (d : Definitions) (path : List Container) : Block → List Event
  | .paragraph text =>
    if inTightItem path then d.leafEvents path text
    else .start .paragraph :: d.leafEvents path text ++ [.stop .paragraph]
  | .heading level text =>
    .start (.heading level) :: d.leafEvents path text ++ [.stop (.heading level)]
  | .code text => [.start .codeBlock, .text text, .stop .codeBlock]
  | .html => [.start .htmlBlock, .stop .htmlBlock]
  | .rule => [.rule]
  | .taskMarker checked => [.taskMarker checked]
  | .rows head body =>
    .start .table :: .start .tableHead :: d.cellsEvents (path ++ [.table]) head
      ++ .stop .tableHead :: (body.flatMap fun row =>
        .start .tableRow :: d.cellsEvents (path ++ [.table]) row ++ [.stop .tableRow])
      ++ [.stop .table]
  | .container kind children =>
    .start (containerTag kind) :: blocksEvents d (path ++ [kind]) children
      ++ [.stop (containerTag kind)]

/-- The events of blocks in turn. -/
def blocksEvents (d : Definitions) (path : List Container) : List Block → List Event
  | [] => []
  | b :: rest => blockEvents d path b ++ blocksEvents d path rest

end

end Definitions

/-- The events of a document. -/
def events (s : Source) : List Event :=
  let o := outline s
  Definitions.blocksEvents ⟨s, o.links, o.footnotes⟩ [] o.blocks

end DocSite.Markdown
