import DocSite.Markdown.Render
import DocSite.Proofs.Text.Runs

/-!
# Separation of blocks

What is rendered of a document is the text of its leaves in turn, with line ends between them.

* `text_ofEvents`: the text of events is what each of them writes (`Rendered.plain`), trimmed.
* `Definitions.blocksLeaves` are the leaves of blocks: paragraphs, headings, code and cells. One is
  `continued` if it is a paragraph of an item of a tight list after which the item goes on.
* `laid_events`: the leaves of a document are laid out in its text (`Laid`). A line end follows each
  leaf that is not continued; a continued one may be followed by the next at once.
* `render_parts_words`: so no word reaches across the end of a leaf that is not continued, and
  `render_merges_continued` is a document with a word that reaches across the end of one that is.
-/

namespace DocSite

open Markdown

/-! ### What events write -/

namespace Rendered

/-- What an event adds to the text. -/
def written : Event → List Char
  | .text s => s
  | .code s => s
  | .softBreak => [' ']
  | .hardBreak => [' ']
  | .stop (.heading _) => ['\n']
  | .stop .paragraph => ['\n']
  | .stop .item => ['\n']
  | .stop .codeBlock => ['\n']
  | .stop .tableCell => ['\n']
  | .stop .tableRow => ['\n']
  | _ => []

/-- What events add to the text. -/
def plain (es : List Event) : List Char :=
  es.flatMap written

theorem text_read (st : State) (e : Event) :
    (st.read e).text = (written e).reverse ++ st.text := by
  cases e with
  | start tag => cases tag <;> rfl
  | stop tag =>
    cases tag with
    | heading level =>
      rw [State.read, State.endLine, State.closeHeading]
      cases st.openHeading <;> rfl
    | _ => rfl
  | _ => rfl

theorem text_foldl_read (es : List Event) (st : State) :
    (es.foldl State.read st).text = (plain es).reverse ++ st.text := by
  induction es generalizing st with
  | nil => rfl
  | cons e es ih =>
    rw [List.foldl_cons, ih, text_read, plain, plain, List.flatMap_cons, List.reverse_append,
      List.append_assoc]

theorem text_ofEvents (es : List Event) :
    (ofEvents es).text = String.ofList (Text.trim (plain es)) := by
  rw [ofEvents]
  simp only [text_foldl_read, List.append_nil, List.reverse_reverse]

@[simp]
theorem plain_nil : plain [] = [] :=
  rfl

@[simp]
theorem plain_cons (e : Event) (es : List Event) : plain (e :: es) = written e ++ plain es :=
  rfl

@[simp]
theorem plain_append (es fs : List Event) : plain (es ++ fs) = plain es ++ plain fs :=
  List.flatMap_append

end Rendered

open Rendered (plain written)

/-! ### Leaves -/

/-- Whether an event is a piece of text. -/
def isPiece : Event → Bool
  | .text _ => true
  | .code _ => true
  | _ => false

/-- A leaf of a document with the events of its text. -/
structure TextLeaf where
  events : List Event
  /-- Whether the leaf is a paragraph of an item of a tight list after which the item goes on. -/
  continued : Bool := false
deriving DecidableEq

/-- The text of a leaf. -/
def TextLeaf.text (l : TextLeaf) : List Char :=
  plain l.events

namespace Markdown.Definitions

/-- The leaves of a table's cells. -/
def cellLeaves (d : Definitions) (path : List Container) (cells : List Leaf) : List TextLeaf :=
  cells.map fun cell => ⟨d.leafEvents path cell, false⟩

mutual

/-- The leaves of a block, which may be the last one of its container. -/
def blockLeaves (d : Definitions) (path : List Container) (last : Bool) : Block → List TextLeaf
  | .paragraph text => [⟨d.leafEvents path text, inTightItem path && !last⟩]
  | .heading _ text => [⟨d.leafEvents path text, false⟩]
  | .code text => [⟨[.text text], false⟩]
  | .html => []
  | .rule => []
  | .taskMarker _ => []
  | .rows head body =>
    d.cellLeaves (path ++ [.table]) head ++ body.flatMap (d.cellLeaves (path ++ [.table]))
  | .container kind children => blocksLeaves d (path ++ [kind]) children

/-- The leaves of the blocks of a container in turn. -/
def blocksLeaves (d : Definitions) (path : List Container) : List Block → List TextLeaf
  | [] => []
  | b :: rest => blockLeaves d path rest.isEmpty b ++ blocksLeaves d path rest

end

end Markdown.Definitions

/-! ### Leaves laid out -/

/-- A text in which leaves follow each other: a line end follows each leaf, but for some that are
continued, and there may be more line ends between them. -/
inductive Laid : List TextLeaf → List Char → Prop
  | nil : Laid [] []
  | lineEnd {ls : List TextLeaf} {s : List Char} (h : Laid ls s) : Laid ls ('\n' :: s)
  | ended (l : TextLeaf) {ls : List TextLeaf} {s : List Char} (h : Laid ls s) :
      Laid (l :: ls) (l.text ++ '\n' :: s)
  | continued {l : TextLeaf} {ls : List TextLeaf} {s : List Char} (hl : l.continued = true)
      (h : Laid ls s) : Laid (l :: ls) (l.text ++ s)

namespace Laid

variable {ls ms : List TextLeaf} {s t : List Char}

theorem append (hs : Laid ls s) (ht : Laid ms t) : Laid (ls ++ ms) (s ++ t) := by
  induction hs with
  | nil => exact ht
  | lineEnd _ ih => exact ih.lineEnd
  | ended l _ ih =>
    rw [List.append_assoc]
    exact ih.ended l
  | continued hl _ ih =>
    rw [List.append_assoc]
    exact ih.continued hl

/-- What stands before a leaf that is not continued and after it is parted by a line end. -/
theorem exists_append {l : TextLeaf} (h : Laid (ls ++ l :: ms) s) (hl : l.continued = false) :
    ∃ u v, s = u ++ l.text ++ '\n' :: v ∧ Laid ls u ∧ Laid ms v := by
  generalize hall : ls ++ l :: ms = all at h
  induction h generalizing ls with
  | nil => exact absurd hall (List.append_ne_nil_of_right_ne_nil _ (List.cons_ne_nil _ _))
  | lineEnd _ ih =>
    obtain ⟨u, v, rfl, hu, hv⟩ := ih hall
    exact ⟨'\n' :: u, v, rfl, hu.lineEnd, hv⟩
  | ended l' h ih =>
    cases ls with
    | nil =>
      obtain ⟨rfl, rfl⟩ := List.cons.inj hall
      exact ⟨[], _, rfl, .nil, h⟩
    | cons l'' ls =>
      obtain ⟨rfl, hrest⟩ := List.cons.inj hall
      obtain ⟨u, v, rfl, hu, hv⟩ := ih hrest
      exact ⟨l''.text ++ '\n' :: u, v, by simp, hu.ended l'', hv⟩
  | continued hl' h ih =>
    cases ls with
    | nil =>
      obtain ⟨rfl, rfl⟩ := List.cons.inj hall
      rw [hl] at hl'
      exact absurd hl' Bool.false_ne_true
    | cons l'' ls =>
      obtain ⟨rfl, hrest⟩ := List.cons.inj hall
      obtain ⟨u, v, rfl, hu, hv⟩ := ih hrest
      exact ⟨l''.text ++ u, v, by simp, hu.continued hl', hv⟩

/-- Where no leaf is continued, the words of the text are those of the leaves. -/
theorem words_eq (h : Laid ls s) (hls : ∀ l ∈ ls, l.continued = false) :
    Text.words s = ls.flatMap fun l => Text.words l.text := by
  have hbreak : Text.isBlank '\n' := by decide
  induction h with
  | nil => rfl
  | lineEnd _ ih => exact (Text.words_append_cons [] _ hbreak).trans (ih hls)
  | ended l _ ih =>
    obtain ⟨-, hls⟩ := List.forall_mem_cons.mp hls
    rw [Text.words_append_cons _ _ hbreak, ih hls, List.flatMap_cons]
  | continued hl _ _ =>
    obtain ⟨hl', -⟩ := List.forall_mem_cons.mp hls
    rw [hl'] at hl
    exact absurd hl Bool.false_ne_true

end Laid

/-! ### The leaves of a document are laid out -/

namespace Markdown.Definitions

/-- What an item writes after its last block where it does so for the block. -/
def itemEnd (path : List Container) : List Char :=
  if inTightItem path then ['\n'] else []

theorem laid_itemEnd (path : List Container) : Laid [] (itemEnd path) := by
  rw [itemEnd]
  split_ifs
  · exact .lineEnd .nil
  · exact .nil

/-- Where leaves are laid out, the item may end. -/
theorem laid_append_itemEnd {ls : List TextLeaf} {s : List Char} (h : Laid ls s)
    (path : List Container) (last : Bool) : Laid ls (s ++ if last then itemEnd path else []) := by
  cases last with
  | false => simpa using h
  | true => simpa using h.append (laid_itemEnd path)

/-- The end of a container writes what its last block may lack. -/
theorem laid_stop {ls : List TextLeaf} {s : List Char} {path : List Container} {kind : Container}
    (h : Laid ls (s ++ itemEnd (path ++ [kind]))) :
    Laid ls (s ++ written (.stop (containerTag kind))) := by
  cases kind with
  | item indent =>
    change Laid ls (s ++ ['\n'])
    rw [itemEnd] at h
    split_ifs at h
    · exact h
    · rw [List.append_nil] at h
      simpa only [List.append_nil] using h.append (.lineEnd .nil)
  | quote | list | footnote | table => simpa [itemEnd, inTightItem, containerTag, written] using h

theorem laid_cells (d : Definitions) (path : List Container) (cells : List Leaf) :
    Laid (d.cellLeaves path cells) (plain (d.cellsEvents path cells)) := by
  induction cells with
  | nil => exact .nil
  | cons cell cells ih =>
    have hcell : plain (d.cellsEvents path (cell :: cells)) =
        plain (d.leafEvents path cell) ++ '\n' :: plain (d.cellsEvents path cells) := by
      simp [cellsEvents, written]
    rw [hcell]
    exact .ended _ ih

theorem laid_rows (d : Definitions) (path : List Container) (rows : List (List Leaf)) :
    Laid (rows.flatMap (d.cellLeaves path))
      (plain (rows.flatMap fun row =>
        .start .tableRow :: d.cellsEvents path row ++ [.stop .tableRow])) := by
  induction rows with
  | nil => exact .nil
  | cons row rows ih =>
    have hrow : plain ((row :: rows).flatMap fun row =>
          .start .tableRow :: d.cellsEvents path row ++ [.stop .tableRow]) =
        plain (d.cellsEvents path row) ++ '\n' :: plain (rows.flatMap fun row =>
          .start .tableRow :: d.cellsEvents path row ++ [.stop .tableRow]) := by
      simp [written]
    rw [hrow, List.flatMap_cons]
    exact (d.laid_cells path row).append ih.lineEnd

mutual

theorem laid_blockEvents (d : Definitions) (path : List Container) (last : Bool) :
    (b : Block) → Laid (d.blockLeaves path last b)
      (plain (d.blockEvents path b) ++ if last then itemEnd path else [])
  | .paragraph text => by
    rw [blockLeaves, blockEvents]
    cases htight : inTightItem path with
    | false =>
      refine laid_append_itemEnd ?_ path last
      simpa [written, TextLeaf.text] using Laid.ended ⟨d.leafEvents path text, false⟩ .nil
    | true =>
      -- The paragraph writes no line end. The item does after its last block, and only then.
      cases last with
      | false =>
        simpa [TextLeaf.text] using
          Laid.continued (l := ⟨d.leafEvents path text, true⟩) rfl .nil
      | true =>
        simpa [itemEnd, htight, TextLeaf.text] using
          Laid.ended ⟨d.leafEvents path text, false⟩ .nil
  | .heading level text => by
    rw [blockLeaves, blockEvents]
    refine laid_append_itemEnd ?_ path last
    simpa [written, TextLeaf.text] using Laid.ended ⟨d.leafEvents path text, false⟩ .nil
  | .code text => by
    rw [blockLeaves, blockEvents]
    refine laid_append_itemEnd ?_ path last
    simpa [written, TextLeaf.text] using Laid.ended ⟨[.text text], false⟩ .nil
  | .html => laid_append_itemEnd .nil path last
  | .rule => laid_append_itemEnd .nil path last
  | .taskMarker checked => laid_append_itemEnd .nil path last
  | .rows head body => by
    rw [blockLeaves, blockEvents]
    refine laid_append_itemEnd ?_ path last
    simpa [written] using
      (d.laid_cells (path ++ [.table]) head).append (d.laid_rows (path ++ [.table]) body)
  | .container kind children => by
    rw [blockLeaves, blockEvents]
    refine laid_append_itemEnd ?_ path last
    simpa [written] using laid_stop (laid_blocksEvents d (path ++ [kind]) children)

theorem laid_blocksEvents (d : Definitions) (path : List Container) :
    (bs : List Block) → Laid (d.blocksLeaves path bs)
      (plain (d.blocksEvents path bs) ++ itemEnd path)
  | [] => laid_itemEnd path
  | [b] => by
    simpa [blocksLeaves, blocksEvents] using laid_blockEvents d path true b
  | b :: b' :: rest => by
    have hb := laid_blockEvents d path false b
    have hrest := laid_blocksEvents d path (b' :: rest)
    rw [blocksLeaves, blocksEvents]
    simpa using hb.append hrest

end

/-! ### The pieces of text are those of the leaves -/

theorem filter_isPiece_cells (d : Definitions) (path : List Container) (cells : List Leaf) :
    (d.cellsEvents path cells).filter isPiece =
      (d.cellLeaves path cells).flatMap fun l => l.events.filter isPiece := by
  rw [cellsEvents, cellLeaves, List.filter_flatMap, List.flatMap_map]
  simp [isPiece]

mutual

theorem filter_isPiece_blockEvents (d : Definitions) (path : List Container) (last : Bool) :
    (b : Block) → (d.blockEvents path b).filter isPiece =
      (d.blockLeaves path last b).flatMap fun l => l.events.filter isPiece
  | .paragraph text => by
    rw [blockLeaves, blockEvents]
    split_ifs <;> simp [isPiece]
  | .heading level text => by simp [blockLeaves, blockEvents, isPiece]
  | .code text => by
    rw [blockLeaves, blockEvents]
    rfl
  | .html => rfl
  | .rule => rfl
  | .taskMarker checked => rfl
  | .rows head body => by
    rw [blockLeaves, blockEvents]
    simp [isPiece, filter_isPiece_cells, List.filter_flatMap, List.flatMap_assoc]
  | .container kind children => by
    rw [blockLeaves, blockEvents, ← filter_isPiece_blocksEvents d (path ++ [kind]) children]
    simp [isPiece]

theorem filter_isPiece_blocksEvents (d : Definitions) (path : List Container) :
    (bs : List Block) → (d.blocksEvents path bs).filter isPiece =
      (d.blocksLeaves path bs).flatMap fun l => l.events.filter isPiece
  | [] => rfl
  | b :: rest => by
    rw [blocksEvents, blocksLeaves, List.filter_append, List.flatMap_append,
      filter_isPiece_blockEvents d path rest.isEmpty b, filter_isPiece_blocksEvents d path rest]

end

end Markdown.Definitions

/-! ### Words of a document -/

/-- The leaves of a document. -/
def Markdown.leaves (s : Source) : List TextLeaf :=
  let o := outline s
  Definitions.blocksLeaves ⟨s, o.links, o.footnotes⟩ [] o.blocks

theorem laid_events (s : Source) : Laid (leaves s) (plain (events s)) := by
  rw [leaves, events]
  simpa [Definitions.itemEnd, Definitions.inTightItem] using
    Definitions.laid_blocksEvents ⟨s, (outline s).links, (outline s).footnotes⟩ []
      (outline s).blocks

theorem words_render (markdown : String) :
    Text.words (render markdown).text.toList =
      Text.words (plain (events markdown.toList.toArray)) := by
  rw [render, Rendered.text_ofEvents, String.toList_ofList, Text.words_trim]

/-- **Words of different blocks.** What is rendered is what the events of a document write, trimmed,
and the pieces of text among them are those of its leaves in turn. A line end follows each leaf that
is not continued, and no word reaches across it. So where no leaf is continued, the words of the
rendered text are those of the leaves, each by itself. -/
theorem render_parts_words (markdown : String) :
    (render markdown).text =
        String.ofList (Text.trim (plain (events markdown.toList.toArray))) ∧
      (events markdown.toList.toArray).filter isPiece =
        (leaves markdown.toList.toArray).flatMap (fun l => l.events.filter isPiece) ∧
      (∀ before l after, leaves markdown.toList.toArray = before ++ l :: after →
        l.continued = false →
        ∃ u v, plain (events markdown.toList.toArray) = u ++ l.text ++ '\n' :: v ∧
          Laid before u ∧ Laid after v ∧
          Text.words (render markdown).text.toList = Text.words (u ++ l.text) ++ Text.words v) ∧
      ((∀ l ∈ leaves markdown.toList.toArray, l.continued = false) →
        Text.words (render markdown).text.toList =
          (leaves markdown.toList.toArray).flatMap fun l => Text.words l.text) := by
  have hlaid := laid_events markdown.toList.toArray
  refine ⟨Rendered.text_ofEvents _, Definitions.filter_isPiece_blocksEvents _ [] _,
    fun before l after hleaves hl => ?_, fun hall => ?_⟩
  · obtain ⟨u, v, hplain, hu, hv⟩ := (hleaves ▸ hlaid).exists_append hl
    refine ⟨u, v, hplain, hu, hv, ?_⟩
    rw [words_render, hplain, Text.words_append_cons _ _ (by decide)]
  · rw [words_render]
    exact hlaid.words_eq hall

/-- A heading and a loose list: each word comes from one leaf. -/
theorem render_parts_words_of_loose_list :
    let markdown := "# a\n\n- b\n\n- c d"
    (∀ l ∈ leaves markdown.toList.toArray, l.continued = false) ∧
      Text.words (render markdown).text.toList =
        (leaves markdown.toList.toArray).flatMap fun l => Text.words l.text := by
  intro markdown
  have hall : ∀ l ∈ leaves markdown.toList.toArray, l.continued = false := by decide +kernel
  exact ⟨hall, (render_parts_words markdown).2.2.2 hall⟩

/-- An item of a tight list with a list in it: the item's own text and the first item below it are
one word. -/
theorem render_merges_continued :
    let markdown := "- a\n  - b"
    leaves markdown.toList.toArray = [⟨[.text ['a']], true⟩, ⟨[.text ['b']], false⟩] ∧
      (render markdown).text = "ab" ∧
      Text.words (render markdown).text.toList ≠
        (leaves markdown.toList.toArray).flatMap fun l => Text.words l.text := by
  decide +kernel

end DocSite
