import DocSite.FrontMatter.Basic
import Mathlib.Data.List.Basic
import Mathlib.Data.List.TakeWhile
import Mathlib.Tactic.Common

/-!
# The lines of front matter

A page is cut at its delimiter lines: front matter stands between the first line and the next
delimiter line, and the body after it (`IsCut`).

* `isDelimiter_iff`: what a delimiter line is (`IsDelimiterLine`).
* `untilDelimiter_eq_some_iff`: the search for a delimiter line ends at the first one, and
  `isSome_untilDelimiter_iff`: it ends if there is one.
* `split_eq_some_iff`: so a page is split exactly as it is cut, and `exists_isCut_iff` says which
  pages have front matter.

Proofs go through a text line by line (`lines_induction`).
-/

namespace DocSite.FrontMatter

/-! ### Delimiter lines -/

/-- A delimiter line without its line feed: three dashes, then spaces and tabs, then at most one
carriage return. -/
def IsDelimiterLine (line : List Char) : Prop :=
  ∃ blanks : List Char, (∀ c ∈ blanks, c = ' ' ∨ c = '\t') ∧
    (line = "---".toList ++ blanks ∨ line = "---".toList ++ blanks ++ ['\r'])

/-- A space or a tab. -/
def isSpaceOrTab (c : Char) : Bool :=
  c == ' ' || c == '\t'

theorem isSpaceOrTab_iff {c : Char} : isSpaceOrTab c ↔ c = ' ' ∨ c = '\t' := by
  rw [isSpaceOrTab, Bool.or_eq_true, beq_iff_eq, beq_iff_eq]

/-- After its dashes a delimiter line has nothing but blanks and a carriage return. -/
theorem isDelimiter_dashes {blanks rest : List Char} (hblanks : ∀ c ∈ blanks, isSpaceOrTab c)
    (hrest : ∀ c, rest.head? = some c → isSpaceOrTab c = false) :
    isDelimiter ('-' :: '-' :: '-' :: (blanks ++ rest)) ↔ rest = [] ∨ rest = ['\r'] := by
  have hdrop : (blanks ++ rest).dropWhile isSpaceOrTab = rest := by
    rw [List.dropWhile_append_of_pos hblanks]
    cases rest with
    | nil => rfl
    | cons c rest => exact List.dropWhile_cons_of_neg (ne_true_of_eq_false (hrest c rfl))
  change (((blanks ++ rest).dropWhile isSpaceOrTab == []) ||
    ((blanks ++ rest).dropWhile isSpaceOrTab == ['\r'])) = true ↔ _
  rw [hdrop, Bool.or_eq_true, beq_iff_eq, beq_iff_eq]

/-- A line is cut after the spaces and tabs at its start. -/
theorem exists_blanks_append (line : List Char) :
    ∃ blanks rest, line = blanks ++ rest ∧ (∀ c ∈ blanks, isSpaceOrTab c) ∧
      ∀ c, rest.head? = some c → isSpaceOrTab c = false := by
  refine ⟨line.takeWhile isSpaceOrTab, line.dropWhile isSpaceOrTab,
    List.takeWhile_append_dropWhile.symm, fun c => List.mem_takeWhile_imp, fun c hc => ?_⟩
  have hhead := List.head?_dropWhile_not isSpaceOrTab line
  rw [hc] at hhead
  exact hhead

theorem eq_dashes_of_isDelimiter {line : List Char} (h : isDelimiter line) :
    ∃ rest, line = '-' :: '-' :: '-' :: rest := by
  unfold isDelimiter at h
  split at h
  · exact ⟨_, rfl⟩
  · cases h

theorem isDelimiter_iff {line : List Char} : isDelimiter line ↔ IsDelimiterLine line := by
  constructor
  · intro h
    obtain ⟨rest, rfl⟩ := eq_dashes_of_isDelimiter h
    obtain ⟨blanks, rest, rfl, hblanks, hrest⟩ := exists_blanks_append rest
    refine ⟨blanks, fun c hc => isSpaceOrTab_iff.mp (hblanks c hc), ?_⟩
    rcases (isDelimiter_dashes hblanks hrest).mp h with rfl | rfl
    · exact .inl (by simp)
    · exact .inr (by simp)
  · rintro ⟨blanks, hblanks, hline⟩
    have hblanks' : ∀ c ∈ blanks, isSpaceOrTab c := fun c hc => isSpaceOrTab_iff.mpr (hblanks c hc)
    rcases hline with rfl | rfl
    · have hnil : isDelimiter ('-' :: '-' :: '-' :: (blanks ++ [])) :=
        (isDelimiter_dashes hblanks' (by simp)).mpr (.inl rfl)
      rwa [List.append_nil] at hnil
    · have hreturn : ∀ c, ['\r'].head? = some c → isSpaceOrTab c = false := by
        rintro c ⟨⟩
        decide
      exact (isDelimiter_dashes hblanks' hreturn).mpr (.inr rfl)

instance (line : List Char) : Decidable (IsDelimiterLine line) :=
  decidable_of_iff _ isDelimiter_iff

theorem IsDelimiterLine.not_mem {line : List Char} (h : IsDelimiterLine line) : '\n' ∉ line := by
  obtain ⟨blanks, hblanks, hline⟩ := h
  have hmem : '\n' ∉ blanks := by
    intro hmem
    rcases hblanks _ hmem with h | h
    · exact absurd h (by decide)
    · exact absurd h (by decide)
  rcases hline with rfl | rfl <;> simp [hmem]

/-! ### A text line by line -/

/-- What holds of a last line, and of a text with one more line in front, holds of every text. -/
@[elab_as_elim]
theorem lines_induction {motive : List Char → Prop}
    (last : ∀ line, '\n' ∉ line → motive line)
    (line : ∀ line rest, '\n' ∉ line → motive rest → motive (line ++ '\n' :: rest))
    (s : List Char) : motive s := by
  by_cases h : '\n' ∈ s
  · obtain ⟨first, rest, hs, hfirst⟩ := List.eq_append_cons_of_mem h
    rw [hs]
    exact line first rest hfirst (lines_induction last line rest)
  · exact last s h
termination_by s.length
decreasing_by
  rw [hs, List.length_append, List.length_cons]
  omega

theorem cutLine_of_not_mem {line : List Char} (h : '\n' ∉ line) : cutLine line = (line, none) := by
  induction line with
  | nil => rfl
  | cons c line ih =>
    obtain ⟨hc, hline⟩ := not_or.mp (List.mem_cons.not.mp h)
    rw [cutLine, if_neg (Ne.symm hc), ih hline]

theorem cutLine_append {line : List Char} (h : '\n' ∉ line) (rest : List Char) :
    cutLine (line ++ '\n' :: rest) = (line, some rest) := by
  induction line with
  | nil => rfl
  | cons c line ih =>
    obtain ⟨hc, hline⟩ := not_or.mp (List.mem_cons.not.mp h)
    rw [List.cons_append, cutLine, if_neg (Ne.symm hc), ih hline]

/-- A text is its first line and what starts with the line feed after it, if there is one. -/
theorem exists_cutLine_eq (text : List Char) :
    ∃ line rest : List Char, text = line ++ rest ∧ '\n' ∉ line ∧
      (∀ c, rest.head? = some c → c = '\n') ∧ cutLine text = (line, rest.tail?) := by
  induction text using lines_induction with
  | last line hline =>
    exact ⟨line, [], (List.append_nil line).symm, hline, by simp, cutLine_of_not_mem hline⟩
  | line line rest hline _ =>
    exact ⟨line, '\n' :: rest, rfl, hline, by simp, cutLine_append hline rest⟩

/-- The search for a delimiter line looks at the first line, then at what follows it. -/
theorem untilDelimiter_of_cutLine {s line : List Char} {rest : Option (List Char)}
    (h : cutLine s = (line, rest)) :
    untilDelimiter s =
      if isDelimiter line then some ([], rest.getD [])
      else rest.bind fun rest =>
        (untilDelimiter rest).map fun (block, body) => (line ++ '\n' :: block, body) := by
  obtain rfl : (cutLine s).1 = line := congrArg Prod.fst h
  obtain rfl : (cutLine s).2 = rest := congrArg Prod.snd h
  rw [untilDelimiter]
  by_cases hdelimiter : isDelimiter (cutLine s).1
  · simp only [hdelimiter, if_true]
  · simp only [hdelimiter, Bool.false_eq_true, if_false]
    split
    · next hrest _ => rw [hrest]; rfl
    · next hrest _ => rw [hrest]; rfl

theorem untilDelimiter_of_not_mem {line : List Char} (h : '\n' ∉ line) :
    untilDelimiter line = if isDelimiter line then some ([], []) else none :=
  untilDelimiter_of_cutLine (cutLine_of_not_mem h)

theorem untilDelimiter_append {line : List Char} (h : '\n' ∉ line) (rest : List Char) :
    untilDelimiter (line ++ '\n' :: rest) =
      if isDelimiter line then some ([], rest)
      else (untilDelimiter rest).map fun (block, body) => (line ++ '\n' :: block, body) :=
  untilDelimiter_of_cutLine (cutLine_append h rest)

theorem split_of_not_mem {line : List Char} (h : '\n' ∉ line) : split line = none := by
  rw [split, cutLine_of_not_mem h]

theorem split_append {line : List Char} (h : '\n' ∉ line) (rest : List Char) :
    split (line ++ '\n' :: rest) = if isDelimiter line then untilDelimiter rest else none := by
  rw [split, cutLine_append h]

/-! ### Cuts -/

/-- Full lines none of which is a delimiter line. -/
def IsBlock (block : List Char) : Prop :=
  ∃ lines : List (List Char), (∀ line ∈ lines, '\n' ∉ line ∧ ¬ IsDelimiterLine line) ∧
    block = lines.flatMap (· ++ ['\n'])

/-- A delimiter line in front of a body, with its line feed unless it ends the text. -/
def IsClosing (closing body : List Char) : Prop :=
  ∃ line, IsDelimiterLine line ∧ (closing = line ++ ['\n'] ∨ closing = line ∧ body = [])

/-- A page that starts with front matter: a delimiter line, lines that are none, a delimiter line
and a body. -/
structure IsCut (text opening block closing body : List Char) : Prop where
  append_eq : opening ++ block ++ closing ++ body = text
  opening : ∃ line, IsDelimiterLine line ∧ opening = line ++ ['\n']
  block : IsBlock block
  closing : IsClosing closing body

theorem isBlock_nil : IsBlock [] :=
  ⟨[], List.forall_mem_nil _, rfl⟩

theorem IsBlock.cons {line block : List Char} (hline : '\n' ∉ line)
    (hdelimiter : ¬ IsDelimiterLine line) (h : IsBlock block) :
    IsBlock (line ++ '\n' :: block) := by
  obtain ⟨lines, hlines, rfl⟩ := h
  exact ⟨line :: lines, List.forall_mem_cons.mpr ⟨⟨hline, hdelimiter⟩, hlines⟩, by simp⟩

/-- Lines before a delimiter line are skipped. -/
theorem untilDelimiter_flatMap {lines : List (List Char)}
    (hlines : ∀ line ∈ lines, '\n' ∉ line ∧ ¬ IsDelimiterLine line) (rest : List Char) :
    untilDelimiter (lines.flatMap (· ++ ['\n']) ++ rest) =
      (untilDelimiter rest).map fun (block, body) =>
        (lines.flatMap (· ++ ['\n']) ++ block, body) := by
  induction lines with
  | nil =>
    rw [List.flatMap_nil, List.nil_append]
    cases untilDelimiter rest <;> rfl
  | cons line lines ih =>
    obtain ⟨⟨hline, hdelimiter⟩, hlines⟩ := List.forall_mem_cons.mp hlines
    have hcut : (line :: lines).flatMap (· ++ ['\n']) ++ rest =
        line ++ '\n' :: (lines.flatMap (· ++ ['\n']) ++ rest) := by simp
    rw [hcut, untilDelimiter_append hline, if_neg (isDelimiter_iff.not.mpr hdelimiter), ih hlines,
      Option.map_map]
    congr 1
    funext ⟨block, body⟩
    simp

/-- The search for a delimiter line ends at the first one. -/
theorem untilDelimiter_eq_some_iff {s block body : List Char} :
    untilDelimiter s = some (block, body) ↔
      ∃ closing, block ++ closing ++ body = s ∧ IsBlock block ∧ IsClosing closing body := by
  constructor
  · intro h
    induction s using lines_induction generalizing block with
    | last line hline =>
      rw [untilDelimiter_of_not_mem hline] at h
      split_ifs at h with hdelimiter
      cases h
      exact ⟨line, by simp, isBlock_nil, line, isDelimiter_iff.mp hdelimiter, .inr ⟨rfl, rfl⟩⟩
    | line line rest hline ih =>
      rw [untilDelimiter_append hline] at h
      split_ifs at h with hdelimiter
      · cases h
        exact ⟨line ++ ['\n'], by simp, isBlock_nil, line, isDelimiter_iff.mp hdelimiter, .inl rfl⟩
      · obtain ⟨⟨block', body'⟩, hrest, heq⟩ := Option.map_eq_some_iff.mp h
        cases heq
        obtain ⟨closing, rfl, hblock, hclosing⟩ := ih hrest
        exact ⟨closing, by simp, hblock.cons hline (isDelimiter_iff.not.mp hdelimiter), hclosing⟩
  · rintro ⟨closing, rfl, ⟨lines, hlines, rfl⟩, line, hline, hclosing⟩
    have hdelimiter := isDelimiter_iff.mpr hline
    have hrest : untilDelimiter (closing ++ body) = some ([], body) := by
      rcases hclosing with rfl | ⟨rfl, rfl⟩
      · have hcut : line ++ ['\n'] ++ body = line ++ '\n' :: body := by simp
        rw [hcut, untilDelimiter_append hline.not_mem, if_pos hdelimiter]
      · rw [List.append_nil, untilDelimiter_of_not_mem hline.not_mem, if_pos hdelimiter]
    rw [List.append_assoc, untilDelimiter_flatMap hlines, hrest]
    simp

/-- A page is split exactly as it is cut. -/
theorem split_eq_some_iff {text block body : List Char} :
    split text = some (block, body) ↔
      ∃ opening closing, IsCut text opening block closing body := by
  constructor
  · intro h
    induction text using lines_induction with
    | last line hline =>
      rw [split_of_not_mem hline] at h
      cases h
    | line line rest hline _ =>
      rw [split_append hline] at h
      split_ifs at h with hdelimiter
      obtain ⟨closing, rfl, hblock, hclosing⟩ := untilDelimiter_eq_some_iff.mp h
      exact ⟨line ++ ['\n'], closing, by simp, ⟨line, isDelimiter_iff.mp hdelimiter, rfl⟩, hblock,
        hclosing⟩
  · rintro ⟨opening, closing, rfl, ⟨line, hline, rfl⟩, hblock, hclosing⟩
    have hcut : line ++ ['\n'] ++ block ++ closing ++ body =
        line ++ '\n' :: (block ++ closing ++ body) := by simp
    rw [hcut, split_append hline.not_mem, if_pos (isDelimiter_iff.mpr hline)]
    exact untilDelimiter_eq_some_iff.mpr ⟨closing, rfl, hblock, hclosing⟩

/-! ### Pages with front matter -/

/-- A delimiter line is found exactly if there is one. -/
theorem isSome_untilDelimiter_iff {s : List Char} :
    (untilDelimiter s).isSome ↔ ∃ line ∈ s.splitOn '\n', IsDelimiterLine line := by
  induction s using lines_induction with
  | last line hline =>
    rw [untilDelimiter_of_not_mem hline, List.splitOn_eq_singleton hline]
    split_ifs with hdelimiter
    · simp [isDelimiter_iff.mp hdelimiter]
    · simp [isDelimiter_iff.not.mp hdelimiter]
  | line line rest hline ih =>
    rw [untilDelimiter_append hline, List.splitOn_append_cons_self_of_not_mem hline,
      List.exists_mem_cons_iff, ← ih]
    split_ifs with hdelimiter
    · simp [isDelimiter_iff.mp hdelimiter]
    · simp [isDelimiter_iff.not.mp hdelimiter]

/-- A page starts with front matter exactly if its first line is a delimiter line and so is a later
one. -/
theorem exists_isCut_iff {text : List Char} :
    (∃ opening block closing body, IsCut text opening block closing body) ↔
      ∃ first rest, text.splitOn '\n' = first :: rest ∧ IsDelimiterLine first ∧
        ∃ line ∈ rest, IsDelimiterLine line := by
  have hsplit : (∃ opening block closing body, IsCut text opening block closing body) ↔
      (split text).isSome := by
    rw [Option.isSome_iff_exists]
    constructor
    · rintro ⟨opening, block, closing, body, h⟩
      exact ⟨(block, body), split_eq_some_iff.mpr ⟨opening, closing, h⟩⟩
    · rintro ⟨⟨block, body⟩, h⟩
      obtain ⟨opening, closing, h⟩ := split_eq_some_iff.mp h
      exact ⟨opening, block, closing, body, h⟩
  rw [hsplit]
  induction text using lines_induction with
  | last line hline =>
    rw [split_of_not_mem hline, List.splitOn_eq_singleton hline]
    simp
  | line line rest hline _ =>
    rw [split_append hline, List.splitOn_append_cons_self_of_not_mem hline]
    split_ifs with hdelimiter
    · simp [isDelimiter_iff.mp hdelimiter, isSome_untilDelimiter_iff]
    · simp [isDelimiter_iff.not.mp hdelimiter]

end DocSite.FrontMatter
