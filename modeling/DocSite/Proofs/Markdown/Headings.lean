import DocSite.Proofs.Markdown.Inline
import DocSite.Proofs.Markdown.Separation
import DocSite.Proofs.Text.Trim
import Mathlib.Data.List.Forall2

/-!
# Headings of a document

What is rendered collects the headings of a document and its text from the same events.

* `HasHeadings hs es`: the headings `hs` start and end in turn among the events `es`, and enclose
  inline events only. Outside of them an event adds to the text alone, and inside of them to the
  text and to the heading alike (`State.read_of_isInline`).
* `foldl_read_of_hasHeadings`: so events that are read through leave their text and their headings.
* `hasHeadings_blocksEvents`: the events of a document have its headings, also those in quotes and
  lists.
* `keeps_headings` puts these together: a heading for each element, and the texts of the headings in
  order within the text.
-/

namespace DocSite

open Markdown
open Rendered (plain written)
open Text (IsTrimmed InOrder)

/-! ### Events with headings -/

/-- Whether a heading starts or ends at an event. -/
def Markdown.Event.isHeadingMark : Event → Bool
  | .start (.heading _) => true
  | .stop (.heading _) => true
  | _ => false

/-- A heading of a document, with the events between its start and its end. -/
structure HeadingElement where
  level : ℕ
  inside : List Event
deriving DecidableEq

/-- Events in which headings start and end in turn, each of them around inline events only. -/
inductive HasHeadings : List HeadingElement → List Event → Prop
  | nil : HasHeadings [] []
  | other {e : Event} {hs : List HeadingElement} {es : List Event} (he : e.isHeadingMark = false)
      (h : HasHeadings hs es) : HasHeadings hs (e :: es)
  | heading (level closing : ℕ) {inside : List Event} {hs : List HeadingElement} {es : List Event}
      (hinside : ∀ e ∈ inside, e.isInline) (h : HasHeadings hs es) :
      HasHeadings (⟨level, inside⟩ :: hs)
        (.start (.heading level) :: inside ++ .stop (.heading closing) :: es)

/-- The heading that is read from an element: its text is what the element encloses, trimmed. -/
structure HeadingElement.Gives (e : HeadingElement) (h : Heading) : Prop where
  depth_eq : h.depth = e.level
  text_eq : h.text.toList = Text.trim (plain e.inside)
  isTrimmed : IsTrimmed h.text.toList
  slug_eq : h.slug = Slug.clean h.text

/-- A page that keeps the headings of a document: it has one for each of them, and their texts stand
in its own text. -/
structure Rendered.KeepsHeadings (r : Rendered) (hs : List HeadingElement) : Prop where
  /-- Each element gives one heading, in the order of the document. -/
  gives : List.Forall₂ HeadingElement.Gives hs r.headings
  isTrimmed : IsTrimmed r.text.toList
  /-- The texts of the headings stand in the text, in order and apart from each other. -/
  inOrder : InOrder (r.headings.map (·.text.toList)) r.text.toList

/-! ### Reading events -/

/-- The heading of an element. -/
def HeadingElement.heading (e : HeadingElement) : Heading :=
  let text := String.ofList (Text.trim (plain e.inside))
  ⟨e.level, Slug.clean text, text⟩

theorem HeadingElement.gives_heading (e : HeadingElement) : e.Gives e.heading where
  depth_eq := rfl
  text_eq := String.toList_ofList
  isTrimmed := by
    rw [heading, String.toList_ofList]
    exact Text.isTrimmed_trim _
  slug_eq := rfl

namespace Rendered

namespace State

variable {st : State} {e : Event}

theorem add_nil (st : State) : st.add [] = st := by
  obtain ⟨text, _ | _, headings⟩ := st <;> rfl

theorem add_add (st : State) (s t : List Char) : (st.add s).add t = st.add (s ++ t) := by
  unfold add
  cases st.openHeading <;> simp

/-- What an inline event writes is added to the text and to the heading that is open. -/
theorem read_of_isInline (he : e.isInline) : st.read e = st.add (written e) := by
  cases e with
  | start tag =>
    cases tag with
    | emphasis | strong | strikethrough | link | image => exact st.add_nil.symm
    | _ => cases he
  | stop tag =>
    cases tag with
    | emphasis | strong | strikethrough | link | image => exact st.add_nil.symm
    | _ => cases he
  | rule => cases he
  | text | code | softBreak | hardBreak => rfl
  | inlineHtml | taskMarker | footnoteReference => exact st.add_nil.symm

theorem foldl_read_of_isInline {es : List Event} (hes : ∀ e ∈ es, e.isInline) :
    es.foldl read st = st.add (plain es) := by
  induction es generalizing st with
  | nil => exact st.add_nil.symm
  | cons e es ih =>
    rw [List.forall_mem_cons] at hes
    rw [List.foldl_cons, read_of_isInline hes.1, ih hes.2, add_add, plain_cons]

/-- Where no heading is open, an event that starts or ends none adds to the text alone. -/
theorem read_of_not_isHeadingMark (he : e.isHeadingMark = false) (hopen : st.openHeading = none) :
    st.read e = { st with text := (written e).reverse ++ st.text } := by
  obtain ⟨text, _, headings⟩ := st
  subst hopen
  cases e with
  | start tag =>
    cases tag with
    | heading => cases he
    | _ => rfl
  | stop tag =>
    cases tag with
    | heading => cases he
    | _ => rfl
  | _ => rfl

/-- A heading from its start to its end: it is added to the headings, and its text to the text. -/
theorem foldl_read_heading (level closing : ℕ) {inside : List Event}
    (hinside : ∀ e ∈ inside, e.isInline) :
    (.start (.heading level) :: inside ++ [.stop (.heading closing)] : List Event).foldl read st =
      ⟨'\n' :: ((plain inside).reverse ++ st.text), none,
        HeadingElement.heading ⟨level, inside⟩ :: st.headings⟩ := by
  have hstart : st.read (.start (.heading level)) =
      { st with openHeading := some (level, []) } := rfl
  have hstop (t : State) : t.read (.stop (.heading closing)) = t.closeHeading.endLine := rfl
  rw [List.cons_append, List.foldl_cons, hstart, List.foldl_append, foldl_read_of_isInline hinside,
    List.foldl_cons, List.foldl_nil, hstop]
  simp [add, closeHeading, endLine, HeadingElement.heading]

/-- **Reading events with headings.** Both the text and the headings grow by what the events
have. -/
theorem foldl_read_of_hasHeadings {hs : List HeadingElement} {es : List Event}
    (h : HasHeadings hs es) (hopen : st.openHeading = none) :
    es.foldl read st = ⟨(plain es).reverse ++ st.text, none,
      (hs.map HeadingElement.heading).reverse ++ st.headings⟩ := by
  -- No heading is open before a heading starts, nor after its end.
  induction h generalizing st with
  | nil =>
    obtain ⟨text, _, headings⟩ := st
    subst hopen
    rfl
  | @other e hs es he _ ih =>
    have hread := read_of_not_isHeadingMark he hopen
    have hnext : (st.read e).openHeading = none := by
      rw [hread]
      exact hopen
    rw [List.foldl_cons, ih hnext, hread, plain_cons]
    simp
  | @heading level closing inside hs es hinside _ ih =>
    rw [List.append_cons, List.foldl_append, foldl_read_heading level closing hinside, ih rfl]
    simp [written]

end State

/-- The texts that headings enclose stand in order in what the events write. -/
theorem inOrder_plain {hs : List HeadingElement} {es : List Event} (h : HasHeadings hs es) :
    InOrder (hs.map fun e => plain e.inside) (plain es) := by
  induction h with
  | nil => exact .nil _
  | other _ _ ih =>
    rw [plain_cons]
    exact ih.append_left _
  | @heading level closing inside hs es _ _ ih =>
    have hparts : plain (Event.start (.heading level) :: inside ++ .stop (.heading closing) :: es) =
        [] ++ (plain inside ++ ('\n' :: plain es)) := by
      simp [written]
    rw [hparts]
    exact .cons [] _ (ih.append_left ['\n'])

theorem keepsHeadings_ofEvents {hs : List HeadingElement} {es : List Event}
    (h : HasHeadings hs es) : (ofEvents es).KeepsHeadings hs := by
  have hread : es.foldl State.read {} = _ := State.foldl_read_of_hasHeadings h rfl
  have hheadings : (ofEvents es).headings = hs.map HeadingElement.heading := by
    unfold ofEvents
    rw [hread]
    simp
  have htext : (ofEvents es).text.toList = Text.trim (plain es) := by
    rw [text_ofEvents, String.toList_ofList]
  constructor
  case gives =>
    rw [hheadings, List.forall₂_map_right_iff, List.forall₂_same]
    intro e _
    exact e.gives_heading
  case isTrimmed =>
    rw [htext]
    exact Text.isTrimmed_trim _
  case inOrder =>
    have htexts : hs.map ((fun h : Heading => h.text.toList) ∘ HeadingElement.heading) =
        (hs.map fun e => plain e.inside).map Text.trim := by
      rw [List.map_map]
      exact List.map_congr_left fun e _ => e.gives_heading.text_eq
    rw [htext, hheadings, List.map_map, htexts]
    exact (inOrder_plain h).trim

end Rendered

/-! ### The headings of a document -/

namespace HasHeadings

variable {hs ks : List HeadingElement} {es fs : List Event}

theorem append (h : HasHeadings hs es) (h' : HasHeadings ks fs) :
    HasHeadings (hs ++ ks) (es ++ fs) := by
  induction h with
  | nil => exact h'
  | other he _ ih => exact .other he ih
  | @heading level closing inside hs es hinside _ ih =>
    rw [List.append_assoc]
    exact .heading level closing hinside ih

/-- Events at which no heading starts or ends have none. -/
theorem of_forall (h : ∀ e ∈ es, e.isHeadingMark = false) : HasHeadings [] es := by
  induction es with
  | nil => exact .nil
  | cons e es ih =>
    rw [List.forall_mem_cons] at h
    exact .other h.1 (ih h.2)

/-- A block around events with headings, which is no heading itself. -/
theorem within (h : HasHeadings hs es) (tag : Tag)
    (hstart : Event.isHeadingMark (.start tag) = false)
    (hstop : Event.isHeadingMark (.stop tag) = false) :
    HasHeadings hs (.start tag :: es ++ [.stop tag]) := by
  have hend : HasHeadings [] [.stop tag] := .other hstop .nil
  simpa using HasHeadings.other hstart (h.append hend)

end HasHeadings

theorem isHeadingMark_eq_false_of_isInline {e : Event} (h : e.isInline) :
    e.isHeadingMark = false := by
  cases e with
  | start tag =>
    cases tag with
    | heading => cases h
    | _ => rfl
  | stop tag =>
    cases tag with
    | heading => cases h
    | _ => rfl
  | _ => rfl

namespace Markdown.Definitions

mutual

/-- The headings of a block. -/
def blockHeadings (d : Definitions) (path : List Container) : Block → List HeadingElement
  | .heading level text => [⟨level, d.leafEvents path text⟩]
  | .container kind children => blocksHeadings d (path ++ [kind]) children
  | .paragraph _ => []
  | .code _ => []
  | .html => []
  | .rule => []
  | .taskMarker _ => []
  | .rows _ _ => []

/-- The headings of blocks in turn. -/
def blocksHeadings (d : Definitions) (path : List Container) : List Block → List HeadingElement
  | [] => []
  | b :: rest => blockHeadings d path b ++ blocksHeadings d path rest

end

theorem hasHeadings_leafEvents (d : Definitions) (path : List Container) (text : Leaf) :
    HasHeadings [] (d.leafEvents path text) :=
  .of_forall fun e he =>
    isHeadingMark_eq_false_of_isInline (d.isInline_of_mem_leafEvents path text e he)

theorem hasHeadings_cellsEvents (d : Definitions) (path : List Container) (cells : List Leaf) :
    HasHeadings [] (d.cellsEvents path cells) := by
  unfold cellsEvents
  induction cells with
  | nil => exact .nil
  | cons cell cells ih =>
    rw [List.flatMap_cons]
    exact ((d.hasHeadings_leafEvents path cell).within .tableCell rfl rfl).append ih

theorem hasHeadings_rows (d : Definitions) (path : List Container) (rows : List (List Leaf)) :
    HasHeadings [] (rows.flatMap fun row =>
      .start .tableRow :: d.cellsEvents path row ++ [.stop .tableRow]) := by
  induction rows with
  | nil => exact .nil
  | cons row rows ih =>
    rw [List.flatMap_cons]
    exact ((d.hasHeadings_cellsEvents path row).within .tableRow rfl rfl).append ih

mutual

theorem hasHeadings_blockEvents (d : Definitions) (path : List Container) :
    (b : Block) → HasHeadings (d.blockHeadings path b) (d.blockEvents path b)
  | .paragraph text => by
    rw [blockHeadings, blockEvents]
    split_ifs
    · exact d.hasHeadings_leafEvents path text
    · exact (d.hasHeadings_leafEvents path text).within .paragraph rfl rfl
  | .heading level text => by
    rw [blockHeadings, blockEvents]
    exact .heading level level (d.isInline_of_mem_leafEvents path text) .nil
  | .code text => by
    rw [blockHeadings, blockEvents]
    exact .of_forall (by simp [Event.isHeadingMark])
  | .html => by
    rw [blockHeadings, blockEvents]
    exact .of_forall (by simp [Event.isHeadingMark])
  | .rule => .other rfl .nil
  | .taskMarker checked => .other rfl .nil
  | .rows head body => by
    rw [blockHeadings, blockEvents]
    have hhead := (d.hasHeadings_cellsEvents (path ++ [.table]) head).within .tableHead rfl rfl
    have hbody := d.hasHeadings_rows (path ++ [.table]) body
    simpa using (hhead.append hbody).within .table rfl rfl
  | .container kind children => by
    rw [blockHeadings, blockEvents]
    apply (hasHeadings_blocksEvents d (path ++ [kind]) children).within (containerTag kind)
    · cases kind <;> rfl
    · cases kind <;> rfl

theorem hasHeadings_blocksEvents (d : Definitions) (path : List Container) :
    (bs : List Block) → HasHeadings (d.blocksHeadings path bs) (d.blocksEvents path bs)
  | [] => .nil
  | b :: rest => by
    rw [blocksHeadings, blocksEvents]
    exact (hasHeadings_blockEvents d path b).append (hasHeadings_blocksEvents d path rest)

end

end Markdown.Definitions

/-- The headings of a document. -/
def Markdown.headingElements (s : Source) : List HeadingElement :=
  let o := outline s
  Definitions.blocksHeadings ⟨s, o.links, o.footnotes⟩ [] o.blocks

/-- **Headings are kept, also in the text.** Let headings start and end in turn among events and
enclose only inline ones. Then there is one heading for each of them, in the order of the events: of
its level, with the text that it encloses and no blank at either end of it, and with that text as
its slug, cleaned. The whole text has no blank at its ends either, and the texts of the headings
stand in it in order, each in a part of its own. The events of every document are such, with the
headings of its blocks at any depth. -/
theorem keeps_headings :
    (∀ hs es, HasHeadings hs es → (Rendered.ofEvents es).KeepsHeadings hs) ∧
      ∀ markdown : String,
        HasHeadings (headingElements markdown.toList.toArray) (events markdown.toList.toArray) ∧
          (render markdown).KeepsHeadings (headingElements markdown.toList.toArray) := by
  refine ⟨fun hs es => Rendered.keepsHeadings_ofEvents, ?_⟩
  intro markdown
  have hevents : HasHeadings (headingElements markdown.toList.toArray)
      (events markdown.toList.toArray) :=
    Definitions.hasHeadings_blocksEvents _ [] _
  exact ⟨hevents, Rendered.keepsHeadings_ofEvents hevents⟩

/-- Two headings with a paragraph between them. The first one has blanks at its ends and code after
a break, and the second one has HTML only, so no text is left of it. -/
theorem keeps_headings_of_blank_heading :
    let inside : List Event := [.text [' ', 'A'], .softBreak, .code ['b', ' ']]
    let es : List Event := .start (.heading 2) :: inside ++ .stop (.heading 2) ::
      [.start .paragraph, .text ['c'], .stop .paragraph, .start (.heading 1), .inlineHtml,
        .stop (.heading 1)]
    let hs : List HeadingElement := [⟨2, inside⟩, ⟨1, [.inlineHtml]⟩]
    HasHeadings hs es ∧
      Rendered.ofEvents es = ⟨"A b \nc", [⟨2, "a-b", "A b"⟩, ⟨1, "", ""⟩]⟩ ∧
      (Rendered.ofEvents es).KeepsHeadings hs := by
  intro inside es hs
  have hlast : HasHeadings [⟨1, [.inlineHtml]⟩]
      [.start (.heading 1), .inlineHtml, .stop (.heading 1)] := .heading 1 1 (by decide) .nil
  have hevents : HasHeadings hs es :=
    .heading 2 2 (by decide) (.other rfl (.other rfl (.other rfl hlast)))
  exact ⟨hevents, by decide +kernel, keeps_headings.1 hs es hevents⟩

end DocSite
