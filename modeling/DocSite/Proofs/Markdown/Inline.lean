import DocSite.Markdown.Stream
import Mathlib.Data.List.Basic
import Mathlib.Tactic.Common

/-!
# The events of a leaf

* `Event.isInline`: an event that stands within the text of a block, such as a piece of text, a
  break or the start of a link. No block starts or ends there.
* `AreInline`: nodes with such events only. Pairing delimiters keeps them so (`areInline_settle`),
  and so does reading the tokens of a leaf (`areInline_resolve`).
* `isInline_of_mem_leafEvents`: a leaf has such events only.
-/

namespace DocSite.Markdown

/-! ### Inline events -/

/-- Whether a tag is that of a stretch of text within a block. -/
def Tag.isInline : Tag → Bool
  | .emphasis => true
  | .strong => true
  | .strikethrough => true
  | .link => true
  | .image => true
  | _ => false

/-- Whether an event stands within the text of a block. -/
def Event.isInline : Event → Bool
  | .start tag => tag.isInline
  | .stop tag => tag.isInline
  | .rule => false
  | _ => true

/-- A node has inline events only. -/
def Node.IsInline (n : Node) : Prop :=
  ∀ e ∈ n.events, e.isInline

/-- Nodes have inline events only. -/
def AreInline (ns : List Node) : Prop :=
  ∀ n ∈ ns, n.IsInline

section

variable {n : Node} {ns ms : List Node}

@[simp]
theorem areInline_nil : AreInline [] :=
  fun _ h => absurd h List.not_mem_nil

@[simp]
theorem areInline_cons : AreInline (n :: ns) ↔ n.IsInline ∧ AreInline ns :=
  List.forall_mem_cons

@[simp]
theorem areInline_append : AreInline (ns ++ ms) ↔ AreInline ns ∧ AreInline ms :=
  List.forall_mem_append

@[simp]
theorem areInline_reverse : AreInline ns.reverse ↔ AreInline ns := by
  unfold AreInline
  simp

theorem isInline_of_mem_nodesEvents (h : AreInline ns) : ∀ e ∈ nodesEvents ns, e.isInline := by
  induction ns with
  | nil =>
    intro e he
    simp [nodesEvents] at he
  | cons n ns ih =>
    rw [areInline_cons] at h
    intro e he
    rw [nodesEvents, List.mem_append] at he
    rcases he with he | he
    · exact h.1 e he
    · exact ih h.2 e he

theorem Node.isInline_of_ne_span (h : ∀ tag ns, n ≠ .span tag ns) : n.IsInline := by
  intro e he
  cases n with
  | span tag ns => exact absurd rfl (h tag ns)
  | text | code | html | softBreak | hardBreak | footnoteReference | delimiters =>
    rw [Node.events, List.mem_singleton] at he
    rw [he]
    rfl

theorem Node.isInline_span {tag : Tag} (htag : tag.isInline) (h : AreInline ns) :
    (Node.span tag ns).IsInline := by
  intro e he
  rw [Node.events, List.mem_append, List.mem_cons, List.mem_singleton] at he
  rcases he with (rfl | he) | rfl
  · exact htag
  · exact isInline_of_mem_nodesEvents h e he
  · exact htag

@[simp]
theorem Node.isInline_text (s : List Char) : (Node.text s).IsInline :=
  Node.isInline_of_ne_span nofun

end

/-! ### Emphasis -/

@[simp]
theorem areInline_delimiterText (mark : Char) (count : ℕ) :
    AreInline (delimiterText mark count) := by
  unfold delimiterText
  split_ifs <;> simp

theorem areInline_flattenOpeners {ns : List Node} {os : List Opener} (h : AreInline ns)
    (hos : ∀ o ∈ os, AreInline o.before) : AreInline (flattenOpeners ns os) := by
  unfold flattenOpeners
  induction os generalizing ns with
  | nil => exact h
  | cons o os ih =>
    rw [List.forall_mem_cons] at hos
    apply ih _ hos.2
    simp [h, hos.1]

theorem isInline_emphasisTag (mark : Char) (two : Bool) : (emphasisTag mark two).isInline := by
  unfold emphasisTag
  split_ifs <;> rfl

theorem areInline_wrap {ns : List Node} (mark : Char) (count : ℕ) (h : AreInline ns) :
    AreInline (wrap mark count ns) := by
  fun_induction wrap mark count ns with
  | case1 => exact h
  | case2 =>
    rw [areInline_cons]
    exact ⟨Node.isInline_span (isInline_emphasisTag mark false) h, areInline_nil⟩
  | case3 _ _ ih =>
    apply ih
    rw [areInline_cons]
    exact ⟨Node.isInline_span (isInline_emphasisTag mark true) h, areInline_nil⟩

/-- The opener that is found stands between those after it and those before it. -/
theorem eq_of_findOpener {mark : Char} {width n : ℕ} {both : Bool} {os after before : List Opener}
    {o : Opener} (h : findOpener mark width both n os = some (after, o, before)) :
    os = after ++ o :: before := by
  fun_induction findOpener mark width both n os generalizing after with
  | case1 | case2 => cases h
  | case3 =>
    cases h
    rfl
  | case4 n o' os _ ih =>
    obtain ⟨⟨after', _, _⟩, hfound, heq⟩ := Option.map_eq_some_iff.mp h
    cases heq
    rw [ih hfound, List.cons_append]

/-- The nodes that are kept while delimiters are paired are inline. -/
def EmphasisState.IsInline (st : EmphasisState) : Prop :=
  AreInline st.nodes ∧ ∀ o ∈ st.openers, AreInline o.before

namespace EmphasisState

variable {st : EmphasisState}

theorem isInline_closeRun (mark : Char) (width : ℕ) (both : Bool) (fuel count : ℕ)
    (h : st.IsInline) : (closeRun mark width both fuel st count).1.IsInline := by
  induction fuel generalizing st count with
  | zero => exact h
  | succ fuel ih =>
    unfold closeRun
    split_ifs with hcount
    · exact h
    · dsimp only
      split
      · exact h
      · -- A partner: the openers after it are text, and those before it stay.
        rename_i after o before hfound
        obtain ⟨hnodes, hopeners⟩ := h
        rw [eq_of_findOpener hfound, List.forall_mem_append, List.forall_mem_cons] at hopeners
        obtain ⟨hafter, ho, hbefore⟩ := hopeners
        have hwrapped : AreInline (wrap mark (min count o.count)
            (flattenOpeners st.nodes after).reverse) := by
          apply areInline_wrap
          rw [areInline_reverse]
          exact areInline_flattenOpeners hnodes hafter
        apply ih
        split_ifs
        · exact ⟨areInline_reverse.mpr hwrapped, List.forall_mem_cons.mpr ⟨ho, hbefore⟩⟩
        · exact ⟨areInline_append.mpr ⟨areInline_reverse.mpr hwrapped, ho⟩, hbefore⟩

theorem isInline_read {n : Node} (h : st.IsInline) (hn : n.IsInline) : (st.read n).IsInline := by
  cases n with
  | delimiters mark count opens closes =>
    have hclosed : (if closes then closeRun mark count (opens && closes) (count + 1) st count
        else (st, count)).1.IsInline := by
      split_ifs
      · exact isInline_closeRun _ _ _ _ _ h
      · exact h
    unfold read
    dsimp only
    generalize (if closes then closeRun mark count (opens && closes) (count + 1) st count
      else (st, count)) = closed at hclosed ⊢
    obtain ⟨hnodes, hopeners⟩ := hclosed
    split_ifs
    · exact ⟨hnodes, hopeners⟩
    · exact ⟨areInline_nil, List.forall_mem_cons.mpr ⟨hnodes, hopeners⟩⟩
    · exact ⟨areInline_append.mpr ⟨areInline_delimiterText _ _, hnodes⟩, hopeners⟩
  | text | code | html | softBreak | hardBreak | footnoteReference | span =>
    exact ⟨areInline_cons.mpr ⟨hn, h.1⟩, h.2⟩

theorem isInline_foldl_read {ns : List Node} (h : st.IsInline) (hns : AreInline ns) :
    (ns.foldl read st).IsInline := by
  induction ns generalizing st with
  | nil => exact h
  | cons n ns ih =>
    rw [areInline_cons] at hns
    exact ih (isInline_read h hns.1) hns.2

end EmphasisState

theorem areInline_settleBreak {ns : List Node} (h : AreInline ns) : AreInline (settleBreak ns) := by
  fun_induction settleBreak ns with
  | case1 => exact h
  | case2 => simp
  | case3 n ns _ ih =>
    rw [areInline_cons] at h ⊢
    exact ⟨h.1, ih h.2⟩

/-- Pairing delimiters adds no block. -/
theorem areInline_settle {ns : List Node} (h : AreInline ns) : AreInline (settle ns) := by
  unfold settle emphasize
  split_ifs
  · have hstart : EmphasisState.IsInline {} :=
      ⟨areInline_nil, fun _ ho => absurd ho List.not_mem_nil⟩
    obtain ⟨hnodes, hopeners⟩ := EmphasisState.isInline_foldl_read hstart (areInline_settleBreak h)
    rw [areInline_reverse]
    exact areInline_flattenOpeners hnodes hopeners
  · exact h

/-! ### Links, code and HTML -/

/-- The nodes that are kept while the tokens of a leaf are read are inline. -/
def InlineState.IsInline (st : InlineState) : Prop :=
  AreInline st.nodes ∧ ∀ b ∈ st.brackets, AreInline b.before

namespace InlineState

variable {sc : Scope} {st : InlineState}

theorem isInline_push {n : Node} (h : st.IsInline) (hn : n.IsInline) : (st.push n).IsInline :=
  ⟨areInline_cons.mpr ⟨hn, h.1⟩, h.2⟩

theorem isInline_asText (sc : Scope) (t : Token) : (t.asText sc).IsInline :=
  Node.isInline_text _

theorem isInline_bracketText (sc : Scope) (b : OpenBracket) : (bracketText sc b).IsInline :=
  Node.isInline_text _

theorem areInline_flatten (h : st.IsInline) : AreInline (st.flatten sc) := by
  obtain ⟨hnodes, hbrackets⟩ := h
  unfold flatten
  generalize st.nodes = ns at hnodes
  generalize st.brackets = bs at hbrackets
  induction bs generalizing ns with
  | nil => exact hnodes
  | cons b bs ih =>
    rw [List.forall_mem_cons] at hbrackets
    apply ih _ _ hbrackets.2
    simp [hnodes, hbrackets.1, isInline_bracketText]

theorem isInline_disableLinks (h : st.IsInline) : st.disableLinks.IsInline := by
  refine ⟨h.1, ?_⟩
  intro b hb
  obtain ⟨b', hb', rfl⟩ := List.mem_map.mp hb
  split_ifs
  · exact h.2 b' hb'
  · exact h.2 b' hb'

theorem isInline_closeBracket (t : Token) (viable : Bool) (rest : List Token) (h : st.IsInline) :
    (closeBracket sc st t viable rest).1.IsInline := by
  unfold closeBracket
  split
  · exact isInline_push h (isInline_asText sc t)
  · rename_i b more hbrackets
    obtain ⟨hnodes, hall⟩ := h
    rw [hbrackets, List.forall_mem_cons] at hall
    obtain ⟨hbefore, hmore⟩ := hall
    have hfailed : AreInline (t.asText sc :: st.nodes ++ bracketText sc b :: b.before) := by
      simp [hnodes, hbefore, isInline_asText, isInline_bracketText]
    dsimp only
    by_cases hdisabled : b.kind = .disabled
    · rw [if_pos hdisabled]
      exact ⟨hfailed, hmore⟩
    · rw [if_neg hdisabled]
      split
      · exact ⟨hfailed, hmore⟩
      · -- A link or an image spans the nodes since the bracket.
        have htag : (if b.kind = .image then Tag.image else Tag.link).isInline := by
          split_ifs <;> rfl
        generalize (if b.kind = .image then Tag.image else Tag.link) = tag at htag
        have hspan := Node.isInline_span htag (areInline_settle (areInline_reverse.mpr hnodes))
        have hst : InlineState.IsInline ⟨.span tag (settle st.nodes.reverse) :: b.before, more⟩ :=
          ⟨areInline_cons.mpr ⟨hspan, hbefore⟩, hmore⟩
        split_ifs
        · exact isInline_disableLinks hst
        · exact hst
      · have hnote : Node.IsInline .footnoteReference := Node.isInline_of_ne_span nofun
        have hflat : AreInline (flatten sc ⟨b.before, more⟩) := areInline_flatten ⟨hbefore, hmore⟩
        refine ⟨?_, fun _ hb => absurd hb List.not_mem_nil⟩
        split_ifs <;> simp [hnote, hflat]

/-- Reading a token adds no block. -/
theorem isInline_readToken (t : Token) (rest : List Token) (h : st.IsInline) :
    (readToken sc st t rest).1.IsInline := by
  have htext : (st.push (t.asText sc)).IsInline := isInline_push h (isInline_asText sc t)
  unfold readToken
  split
  · exact htext
  · exact isInline_push h (Node.isInline_text _)
  · exact isInline_push h (Node.isInline_of_ne_span nofun)
  · exact isInline_push h (Node.isInline_of_ne_span nofun)
  · exact isInline_push h (Node.isInline_of_ne_span nofun)
  · exact ⟨areInline_nil, List.forall_mem_cons.mpr h⟩
  · exact ⟨areInline_nil, List.forall_mem_cons.mpr h⟩
  · exact isInline_closeBracket t _ rest h
  · -- Backticks: code up to the same number of them, or else text.
    dsimp only
    split
    · exact htext
    · refine isInline_push ?_ (Node.isInline_of_ne_span nofun)
      split_ifs
      · exact isInline_push h (Node.isInline_text _)
      · exact h
  · -- An angle: an address, HTML, or else text.
    split
    · exact htext
    · split
      · apply isInline_push h
        exact Node.isInline_span rfl (by simp)
      · split
        · exact isInline_push h (Node.isInline_of_ne_span nofun)
        · exact htext

theorem isInline_readTokens (fuel : ℕ) (ts : List Token) (h : st.IsInline) :
    (readTokens sc fuel st ts).IsInline := by
  induction fuel generalizing st ts with
  | zero => exact h
  | succ fuel ih =>
    cases ts with
    | nil => exact h
    | cons t ts => exact ih _ (isInline_readToken t ts h)

end InlineState

theorem areInline_resolve (sc : Scope) (ts : List Token) : AreInline (resolve sc ts) := by
  have hstart : InlineState.IsInline {} := ⟨areInline_nil, fun _ hb => absurd hb List.not_mem_nil⟩
  unfold resolve
  apply areInline_settle
  rw [areInline_reverse]
  exact InlineState.areInline_flatten (InlineState.isInline_readTokens ts.length ts hstart)

/-- The text of a leaf starts and ends no block. -/
theorem Definitions.isInline_of_mem_leafEvents (d : Definitions) (path : List Container)
    (text : Leaf) : ∀ e ∈ d.leafEvents path text, e.isInline :=
  isInline_of_mem_nodesEvents (areInline_resolve _ _)

end DocSite.Markdown
