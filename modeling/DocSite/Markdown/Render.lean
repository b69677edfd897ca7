import DocSite.Markdown.Stream
import DocSite.Record.Basic
import DocSite.Slug
import DocSite.Text.Blank

/-!
# Plain text of a page

* `render` folds the events of a document into its text and its headings. Pieces of text follow each
  other as they are; a break is a space, and the end of a paragraph, heading, item, code block, cell
  or row is a line end. HTML is left out.
* A heading's text is what stands between its start and its end, without blanks at its ends.
-/

namespace DocSite

open Markdown (Event Tag)

/-- The text and the headings of a page. -/
structure Rendered where
  text : String := ""
  headings : List Heading := []
deriving DecidableEq, Repr

namespace Rendered

/-- What is known while events are read: the text and the heading that is open, newest character
first, and the headings, newest first. -/
structure State where
  text : List Char := []
  openHeading : Option (Nat × List Char) := none
  headings : List Heading := []

namespace State

/-- Adds text, also to a heading that is open. -/
def add (st : State) (s : List Char) : State :=
  { st with
    text := s.reverse ++ st.text
    openHeading := st.openHeading.map fun (depth, h) => (depth, s.reverse ++ h) }

/-- Ends the heading that is open. -/
def closeHeading (st : State) : State :=
  match st.openHeading with
  | none => st
  | some (depth, h) =>
    let text := String.ofList (Text.trim h.reverse)
    { st with
      openHeading := none
      headings := ⟨depth, Slug.clean text, text⟩ :: st.headings }

/-- Ends a line of the text. -/
def endLine (st : State) : State :=
  { st with text := '\n' :: st.text }

/-- Reads one event. -/
def read (st : State) : Event → State
  | .start (.heading level) => { st with openHeading := some (level, []) }
  | .stop (.heading _) => st.closeHeading.endLine
  | .text s => st.add s
  | .code s => st.add s
  | .softBreak => st.add [' ']
  | .hardBreak => st.add [' ']
  | .stop .paragraph => st.endLine
  | .stop .item => st.endLine
  | .stop .codeBlock => st.endLine
  | .stop .tableCell => st.endLine
  | .stop .tableRow => st.endLine
  | _ => st

end State

/-- The text and headings of events. -/
def ofEvents (es : List Event) : Rendered :=
  let st := es.foldl State.read {}
  ⟨String.ofList (Text.trim st.text.reverse), st.headings.reverse⟩

end Rendered

/-- The text and headings of a page in markdown. -/
def render (markdown : String) : Rendered :=
  .ofEvents (Markdown.events markdown.toList.toArray)

end DocSite
