import DocSite.Proofs.FrontMatter.Lines
import DocSite.Proofs.Text.Pattern

/-!
# Front matter as a pattern

A page's front matter is what the group of `pattern` takes in the first match, and its body is what
follows the match (`find?_pattern`).

* `delimiter_seq_ends`: before a pattern that only matches at the end of a line, `delimiter` matches
  nothing but a whole delimiter line.
* `head?_closing_ends`: so `closing` matches a delimiter line and its line feed.
* `head?_block_closing_ends`: the search for the shortest block stops at the first delimiter line.
-/

namespace DocSite.FrontMatter

open Text

/-- Three dashes, then spaces and tabs, then a carriage return that may be missing. -/
def delimiter : Pattern :=
  .seq (.char '-') (.seq (.char '-') (.seq (.char '-')
    (.seq (.many isSpaceOrTab) (.optional (· == '\r')))))

/-- A delimiter line, from its start to its end and over its line feed. -/
def closing : Pattern :=
  .seq .lineStart (.seq delimiter (.seq .lineEnd (.optional (· == '\n'))))

/-- A delimiter line at the start of the text, the fewest characters that will do, and a delimiter
line. -/
def pattern : Pattern :=
  .seq .textStart (.seq delimiter (.seq (.char '\n')
    (.seq (.group (.few fun _ => true)) closing)))

/-! ### Delimiter lines -/

variable {a : Pattern} {before line rest group : List Char}

/-- Spaces and tabs are passed as a whole: neither the carriage return nor what follows it is one.
-/
theorem blanks_seq_ends
    (ha : ∀ before c rest group, c ≠ '\n' → a.ends ⟨before, c :: rest, group⟩ = [])
    {blanks : List Char} (hblanks : ∀ c ∈ blanks, isSpaceOrTab c)
    (hrest : ∀ c, rest.head? = some c → isSpaceOrTab c = false) :
    (((Pattern.many isSpaceOrTab).seq (.optional (· == '\r'))).seq a).ends
        ⟨before, blanks ++ rest, group⟩ =
      ((Pattern.optional (· == '\r')).seq a).ends ⟨blanks.reverse ++ before, rest, group⟩ := by
  rw [Pattern.seq_assoc_ends]
  refine Pattern.many_seq_ends (fun before c rest group hc => ?_) hblanks hrest
  have hreturn : c ≠ '\r' := by rintro rfl; exact absurd hc (by decide)
  have hfeed : c ≠ '\n' := by rintro rfl; exact absurd hc (by decide)
  rw [Pattern.optional_seq_ends_of_head? (by simp [hreturn]), ha _ _ _ _ hfeed]

/-- What is left of a line before its end is at most a carriage return. -/
theorem return_seq_ends
    (ha : ∀ before c rest group, c ≠ '\n' → a.ends ⟨before, c :: rest, group⟩ = [])
    (hline : '\n' ∉ line) (hrest : ∀ c, rest.head? = some c → c = '\n') :
    ((Pattern.optional (· == '\r')).seq a).ends ⟨before, line ++ rest, group⟩ =
      if line = [] ∨ line = ['\r'] then a.ends ⟨line.reverse ++ before, rest, group⟩ else [] := by
  cases line with
  | nil =>
    rw [if_pos (.inl rfl)]
    refine Pattern.optional_seq_ends_of_head? fun c hc => ?_
    rw [hrest c hc]
    decide
  | cons c line =>
    obtain ⟨hc, hline'⟩ := not_or.mp (List.mem_cons.not.mp hline)
    have hstay : a.ends ⟨before, c :: (line ++ rest), group⟩ = [] := ha _ _ _ _ (Ne.symm hc)
    by_cases hreturn : c = '\r'
    · subst hreturn
      rw [List.cons_append, Pattern.optional_seq_ends_cons rfl hstay]
      cases line with
      | nil =>
        rw [if_pos (.inr rfl)]
        rfl
      | cons d line =>
        rw [if_neg (by simp)]
        exact ha _ _ _ _ (Ne.symm (not_or.mp (List.mem_cons.not.mp hline')).1)
    · rw [if_neg (by simp [hreturn]), Pattern.optional_seq_ends_of_head? (by simp [hreturn])]
      exact hstay

/-- After the dashes, blanks and a carriage return are all that may stand before the end of the
line. -/
theorem blanks_return_seq_ends
    (ha : ∀ before c rest group, c ≠ '\n' → a.ends ⟨before, c :: rest, group⟩ = [])
    (hline : '\n' ∉ line) (hrest : ∀ c, rest.head? = some c → c = '\n') :
    (((Pattern.many isSpaceOrTab).seq (.optional (· == '\r'))).seq a).ends
        ⟨before, line ++ rest, group⟩ =
      if isDelimiter ('-' :: '-' :: '-' :: line) then a.ends ⟨line.reverse ++ before, rest, group⟩
      else [] := by
  obtain ⟨blanks, tail, rfl, hblanks, htail⟩ := exists_blanks_append line
  have htail' : '\n' ∉ tail := fun h => hline (List.mem_append_right _ h)
  have hnext : ∀ c, (tail ++ rest).head? = some c → isSpaceOrTab c = false := by
    intro c hc
    cases tail with
    | nil => rw [hrest c hc]; decide
    | cons d tail => exact htail c hc
  rw [List.append_assoc, blanks_seq_ends ha hblanks hnext, return_seq_ends ha htail' hrest]
  simp only [isDelimiter_dashes hblanks htail, List.reverse_append, List.append_assoc]

theorem dash_seq_ends (hrest : ∀ c, rest.head? = some c → c = '\n') :
    ((Pattern.char '-').seq a).ends ⟨before, line ++ rest, group⟩ =
      if line.head? = some '-' then a.ends ⟨'-' :: before, line.tail ++ rest, group⟩ else [] := by
  cases line with
  | nil =>
    refine Pattern.char_seq_ends_of_head? fun h => ?_
    exact absurd (hrest '-' h) (by decide)
  | cons c line =>
    by_cases hc : c = '-'
    · subst hc
      exact Pattern.char_seq_ends_cons a '-' before (line ++ rest) group
    · rw [if_neg (by simpa using hc)]
      exact Pattern.char_seq_ends_of_head? (by simpa using hc)

/-- Before a pattern that only matches at the end of a line, `delimiter` matches whole delimiter
lines. -/
theorem delimiter_seq_ends
    (ha : ∀ before c rest group, c ≠ '\n' → a.ends ⟨before, c :: rest, group⟩ = [])
    (hline : '\n' ∉ line) (hrest : ∀ c, rest.head? = some c → c = '\n') :
    (delimiter.seq a).ends ⟨before, line ++ rest, group⟩ =
      if isDelimiter line then a.ends ⟨line.reverse ++ before, rest, group⟩ else [] := by
  by_cases hdashes : ∃ tail, line = '-' :: '-' :: '-' :: tail
  · obtain ⟨tail, rfl⟩ := hdashes
    have htail : '\n' ∉ tail := by simpa using hline
    rw [delimiter, Pattern.seq_assoc_ends, List.cons_append, Pattern.char_seq_ends_cons,
      Pattern.seq_assoc_ends, List.cons_append, Pattern.char_seq_ends_cons, Pattern.seq_assoc_ends,
      List.cons_append, Pattern.char_seq_ends_cons, blanks_return_seq_ends ha htail hrest]
    simp
  · have hdelimiter : ¬ isDelimiter line := fun h => hdashes (eq_dashes_of_isDelimiter h)
    rw [if_neg hdelimiter, delimiter, Pattern.seq_assoc_ends, dash_seq_ends hrest]
    split_ifs with hfirst
    · obtain ⟨line, rfl⟩ := List.head?_eq_some_iff.mp hfirst
      rw [List.tail_cons, Pattern.seq_assoc_ends, dash_seq_ends hrest]
      split_ifs with hsecond
      · obtain ⟨line, rfl⟩ := List.head?_eq_some_iff.mp hsecond
        rw [List.tail_cons, Pattern.seq_assoc_ends, dash_seq_ends hrest, if_neg]
        intro hthird
        obtain ⟨line, rfl⟩ := List.head?_eq_some_iff.mp hthird
        exact hdashes ⟨line, rfl⟩
      · rfl
    · rfl

/-! ### The end of the block -/

theorem lineEnd_seq_ends_cons {c : Char} (hc : c ≠ '\n') :
    (Pattern.lineEnd.seq a).ends ⟨before, c :: rest, group⟩ = [] :=
  Pattern.seq_ends_of_ends_eq_nil (if_neg hc)

/-- Only the end of a line is left before its line feed, which is passed. -/
theorem head?_lineEnd_feed_ends (hrest : ∀ c, rest.head? = some c → c = '\n') :
    (((Pattern.lineEnd.seq (.optional (· == '\n'))).ends ⟨before, rest, group⟩).head?.map
      fun e => (e.group, e.after)) = some (group, rest.tail?.getD []) := by
  cases rest with
  | nil => rfl
  | cons c rest =>
    obtain rfl := hrest c rfl
    rfl

/-- At a line start `closing` matches a delimiter line and its line feed, and elsewhere nothing. -/
theorem head?_closing_ends (s : Spot) :
    ((closing.ends s).head?.map fun e => (e.group, e.after)) =
      if s.AtLineStart ∧ isDelimiter (cutLine s.after).1 then
        some (s.group, (cutLine s.after).2.getD [])
      else none := by
  obtain ⟨before, text, group⟩ := s
  obtain ⟨line, rest, rfl, hline, hrest, hcut⟩ := exists_cutLine_eq text
  rw [hcut]
  by_cases hstart : Spot.AtLineStart ⟨before, line ++ rest, group⟩
  · have hhere : Pattern.lineStart.ends ⟨before, line ++ rest, group⟩ =
        [⟨before, line ++ rest, group⟩] := if_pos hstart
    rw [closing, Pattern.seq_ends_of_ends_eq hhere,
      delimiter_seq_ends (fun _ _ _ _ => lineEnd_seq_ends_cons) hline hrest]
    by_cases hdelimiter : isDelimiter line
    · rw [if_pos hdelimiter, if_pos ⟨hstart, hdelimiter⟩, head?_lineEnd_feed_ends hrest]
    · rw [if_neg hdelimiter, if_neg fun h => hdelimiter h.2]
      rfl
  · have hnowhere : Pattern.lineStart.ends ⟨before, line ++ rest, group⟩ = [] := if_neg hstart
    rw [closing, Pattern.seq_ends_of_ends_eq_nil hnowhere, if_neg fun h => hstart h.1]
    rfl

/-- What the search for the end of a block that starts after `before` finds at a cut of the text. -/
def closingAt (before : List Char) (cut : List Char × List Char) : Option (List Char × List Char) :=
  if Spot.AtLineStart ⟨cut.1.reverse ++ before, cut.2, cut.1⟩ ∧ isDelimiter (cutLine cut.2).1 then
    some (cut.1, (cutLine cut.2).2.getD [])
  else none

theorem closingAt_eq_none {c : Char} (hc : c ≠ '\n') (before taken left : List Char) :
    closingAt before (taken ++ [c], left) = none := by
  refine if_neg fun h => hc ?_
  have hstart := h.1
  rw [List.reverse_append] at hstart
  exact hstart

theorem closingAt_nil (hbefore : before.headD '\n' = '\n') (text : List Char) :
    closingAt before ([], text) =
      if isDelimiter (cutLine text).1 then some ([], (cutLine text).2.getD []) else none := by
  have hstart : Spot.AtLineStart ⟨before, text, []⟩ := hbefore
  by_cases hdelimiter : isDelimiter (cutLine text).1
  · rw [if_pos hdelimiter]
    exact if_pos ⟨hstart, hdelimiter⟩
  · rw [if_neg hdelimiter]
    exact if_neg fun h => hdelimiter h.2

/-- After a line has been taken the search goes on as from the start of the next line. -/
theorem closingAt_append (before line : List Char) (cut : List Char × List Char) :
    closingAt before (line ++ '\n' :: cut.1, cut.2) =
      (closingAt ('\n' :: (line.reverse ++ before)) cut).map fun (block, body) =>
        (line ++ '\n' :: block, body) := by
  have hstart : Spot.AtLineStart ⟨(line ++ '\n' :: cut.1).reverse ++ before, cut.2,
      line ++ '\n' :: cut.1⟩ ↔
        Spot.AtLineStart ⟨cut.1.reverse ++ '\n' :: (line.reverse ++ before), cut.2, cut.1⟩ := by
    simp [Spot.AtLineStart]
  unfold closingAt
  simp only [hstart]
  split_ifs <;> rfl

/-- The search for the shortest block before a delimiter line goes through the text line by line. -/
theorem findSome?_closingAt (hbefore : before.headD '\n' = '\n') (text : List Char) :
    (cuts (fun _ => true) text).findSome? (closingAt before) = untilDelimiter text := by
  have hinside : ∀ before taken c left, c ≠ '\n' → closingAt before (taken ++ [c], left) = none :=
    fun before taken _ left hc => closingAt_eq_none hc before taken left
  induction text using lines_induction generalizing before with
  | last line hline =>
    rw [findSome?_cuts_of_not_mem (hinside before) hline, closingAt_nil hbefore,
      cutLine_of_not_mem hline, untilDelimiter_of_not_mem hline]
    rfl
  | line line rest hline ih =>
    have hnext : (cuts (fun _ => true) rest).findSome?
        (closingAt ('\n' :: (line.reverse ++ before))) = untilDelimiter rest := ih rfl
    rw [findSome?_cuts_append (hinside before) hline, closingAt_nil hbefore, cutLine_append hline,
      untilDelimiter_append hline, ← hnext, List.map_findSome?]
    simp only [closingAt_append]
    by_cases hdelimiter : isDelimiter line
    · simp [hdelimiter]
    · simp [hdelimiter, Function.comp_def]

/-- The block that the pattern takes ends where the first delimiter line starts. -/
theorem head?_block_closing_ends {before : List Char} (hbefore : before.headD '\n' = '\n')
    (text group : List Char) :
    ((((Pattern.group (.few fun _ => true)).seq closing).ends ⟨before, text, group⟩).head?.map
      fun e => (e.group, e.after)) = untilDelimiter text := by
  rw [← findSome?_closingAt hbefore text, Pattern.seq_ends, Pattern.group_few_ends,
    List.head?_flatMap, List.findSome?_map, List.map_findSome?]
  congr 1
  funext cut
  exact head?_closing_ends _

/-! ### The whole pattern -/

/-- The first match of the pattern splits a page: its group is the front matter, and the body
follows it. -/
theorem find?_pattern (text : List Char) :
    ((pattern.find? text).map fun e => (e.group, e.after)) = split text := by
  rw [pattern, Pattern.find?_textStart_seq]
  have hfeed : ∀ before c rest group, c ≠ '\n' → ((Pattern.char '\n').seq
      ((Pattern.group (.few fun _ => true)).seq closing)).ends ⟨before, c :: rest, group⟩ = [] :=
    fun _ _ _ _ hc => Pattern.char_seq_ends_of_head? (by simpa using hc)
  obtain ⟨line, rest, rfl, hline, hrest, hcut⟩ := exists_cutLine_eq text
  rw [delimiter_seq_ends hfeed hline hrest, split, hcut]
  cases rest with
  | nil =>
    -- The text ends before the line feed of its first line.
    rw [Pattern.char_seq_ends_of_head? (by simp)]
    split_ifs <;> rfl
  | cons c rest =>
    obtain rfl := hrest c rfl
    rw [Pattern.char_seq_ends_cons, List.tail?_cons]
    by_cases hdelimiter : isDelimiter line
    · simp only [hdelimiter, if_true]
      exact head?_block_closing_ends rfl rest []
    · simp only [hdelimiter, Bool.false_eq_true, if_false]
      rfl

-- Four dashes do not end the block, and the second delimiter line is part of the body.
example : ((pattern.find? "---\r\na: b\n----\n---\t\r\nbody\n---\n".toList).map
    fun e => (e.group, e.after)) = some ("a: b\n----\n".toList, "body\n---\n".toList) := by
  decide +kernel

end DocSite.FrontMatter
