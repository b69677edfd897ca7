import DocSite.Proofs.Text.LetterCase

/-!
# What lowering sees of a text

Characters are lowered one by one but for the capital sigma, whose lowercase depends on the
characters around it.

* `lowercase_append_cons`: no sigma is looked for past a character that is neither cased nor
  case-ignorable (`IsBoundary`), so what stands before and after it is lowered on its own.
* `settle` puts, in place, what two letters become in a text: the small sigma that each capital one
  is lowered to, and the two characters of U+0130. What is left to do needs no neighbours
  (`lowercase_eq_flatMap_settle`).
* `map_openSigma_lowercase`: two small sigmas being all that neighbours decide about, a text is
  lowered character by character if both are taken for one.
-/

namespace DocSite.Text

/-! ### Boundaries -/

/-- A character past which no sigma is looked for. -/
structure IsBoundary (c : Char) : Prop where
  isCased_eq_false : isCased c = false
  isCaseIgnorable_eq_false : isCaseIgnorable c = false

theorem IsBoundary.ne_sigma {c : Char} (h : IsBoundary c) : c ≠ '\u03a3' := by
  rintro rfl
  exact absurd h.isCased_eq_false (by decide)

theorem IsBoundary.casedBefore_eq_false {c : Char} (h : IsBoundary c) (before : Bool) :
    casedBefore before c = false := by
  rw [casedBefore, h.isCaseIgnorable_eq_false, if_neg Bool.false_ne_true, h.isCased_eq_false]

theorem startsCased_cons (c : Char) (s : List Char) :
    startsCased (c :: s) = if isCaseIgnorable c then startsCased s else isCased c := by
  rw [startsCased, List.dropWhile_cons]
  by_cases hc : isCaseIgnorable c
  · rw [if_pos hc, if_pos hc, startsCased]
  · rw [if_neg hc, if_neg hc]

theorem startsCased_append_cons {c : Char} (hc : IsBoundary c) (s t : List Char) :
    startsCased (s ++ c :: t) = startsCased s := by
  induction s with
  | nil =>
    rw [List.nil_append, startsCased_cons, hc.isCaseIgnorable_eq_false, if_neg Bool.false_ne_true,
      hc.isCased_eq_false]
    rfl
  | cons d s ih => rw [List.cons_append, startsCased_cons, startsCased_cons, ih]

theorem lowercaseFrom_append_cons {c : Char} (hc : IsBoundary c) (before : Bool)
    (s t : List Char) :
    lowercaseFrom before (s ++ c :: t) = lowercaseFrom before s ++ (lower c ++ lowercase t) := by
  induction s generalizing before with
  | nil =>
    show lowercaseFrom before (c :: t) = lower c ++ lowercase t
    rw [lowercaseFrom, if_neg hc.ne_sigma, hc.casedBefore_eq_false, lowercase]
  | cons d s ih =>
    rw [List.cons_append, lowercaseFrom, startsCased_append_cons hc, ih, lowercaseFrom,
      List.append_assoc]

/-- **What stands before and after a boundary is lowered on its own.** -/
theorem lowercase_append_cons {c : Char} (hc : IsBoundary c) (s t : List Char) :
    lowercase (s ++ c :: t) = lowercase s ++ (lower c ++ lowercase t) :=
  lowercaseFrom_append_cons hc false s t

/-! ### Settled texts -/

/-- `settle`, where `before` says whether a cased character precedes the text. -/
def settleFrom (before : Bool) : List Char → List Char
  | [] => []
  | c :: rest =>
    (if c = '\u03a3' then [if before && !startsCased rest then '\u03c2' else '\u03c3']
      else if c = '\u0130' then lower c else [c]) ++ settleFrom (casedBefore before c) rest

/-- A text with small sigmas for its capital ones, of the form that their places in the text ask
for, and with the two characters of its lowercase for each U+0130. -/
def settle (s : List Char) : List Char :=
  settleFrom false s

theorem lowercaseFrom_eq_flatMap_settleFrom (before : Bool) (s : List Char) :
    lowercaseFrom before s = (settleFrom before s).flatMap lower := by
  induction s generalizing before with
  | nil => rfl
  | cons c rest ih =>
    rw [lowercaseFrom, settleFrom, List.flatMap_append, ← ih]
    congr 1
    -- What is put in place of the two letters is lowered already.
    split_ifs
    · decide
    · decide
    · next hdotted =>
      rw [hdotted]
      decide
    · rw [List.flatMap_singleton]

/-- A settled text is lowered character by character. -/
theorem lowercase_eq_flatMap_settle (s : List Char) : lowercase s = (settle s).flatMap lower :=
  lowercaseFrom_eq_flatMap_settleFrom false s

theorem mem_settleFrom {before : Bool} {s : List Char} {d : Char} (h : d ∈ settleFrom before s) :
    d ≠ '\u03a3' ∧ d ≠ '\u0130' := by
  induction s generalizing before with
  | nil => exact absurd h List.not_mem_nil
  | cons c rest ih =>
    rw [settleFrom] at h
    rcases List.mem_append.mp h with h | h
    · split_ifs at h with hsigma hfinal hdotted
      · obtain rfl := List.mem_singleton.mp h
        decide
      · obtain rfl := List.mem_singleton.mp h
        decide
      · rw [hdotted, lower, if_pos rfl] at h
        rcases List.mem_pair.mp h with rfl | rfl <;> decide
      · obtain rfl := List.mem_singleton.mp h
        exact ⟨hsigma, hdotted⟩
    · exact ih h

/-- A settled text has none of the two letters. -/
theorem ne_of_mem_settle {s : List Char} {d : Char} (h : d ∈ settle s) :
    d ≠ '\u03a3' ∧ d ≠ '\u0130' :=
  mem_settleFrom h

/-- A text without the two letters is settled. -/
theorem settleFrom_eq_self {s : List Char} (hsigma : '\u03a3' ∉ s) (hdotted : '\u0130' ∉ s)
    (before : Bool) : settleFrom before s = s := by
  induction s generalizing before with
  | nil => rfl
  | cons c rest ih =>
    rw [List.mem_cons, not_or] at hsigma hdotted
    rw [settleFrom, if_neg (Ne.symm hsigma.1), if_neg (Ne.symm hdotted.1), ih hsigma.2 hdotted.2,
      List.singleton_append]

theorem settle_eq_self {s : List Char} (hsigma : '\u03a3' ∉ s) (hdotted : '\u0130' ∉ s) :
    settle s = s :=
  settleFrom_eq_self hsigma hdotted false

/-! ### Texts without a capital sigma -/

theorem lowercaseFrom_eq_flatMap {s : List Char} (h : '\u03a3' ∉ s) (before : Bool) :
    lowercaseFrom before s = s.flatMap lower := by
  induction s generalizing before with
  | nil => rfl
  | cons c rest ih =>
    rw [List.mem_cons, not_or] at h
    rw [lowercaseFrom, if_neg (Ne.symm h.1), ih h.2, List.flatMap_cons]

/-- A text without a capital sigma is lowered character by character. -/
theorem lowercase_eq_flatMap {s : List Char} (h : '\u03a3' ∉ s) : lowercase s = s.flatMap lower :=
  lowercaseFrom_eq_flatMap h false

/-! ### Characters of a lowercase text -/

theorem mem_lowercaseFrom {before : Bool} {s : List Char} {c d : Char} (hc : c ∈ s)
    (hsigma : c ≠ '\u03a3') (hd : d ∈ lower c) : d ∈ lowercaseFrom before s := by
  induction s generalizing before with
  | nil => exact absurd hc List.not_mem_nil
  | cons x rest ih =>
    rw [lowercaseFrom]
    rcases List.mem_cons.mp hc with rfl | hrest
    · rw [if_neg hsigma]
      exact List.mem_append_left _ hd
    · exact List.mem_append_right _ (ih hrest)

theorem eq_or_mem_lower_of_mem_lowercaseFrom {before : Bool} {s : List Char} {d : Char}
    (h : d ∈ lowercaseFrom before s) : d = '\u03c2' ∨ ∃ c ∈ s, d ∈ lower c := by
  induction s generalizing before with
  | nil => exact absurd h List.not_mem_nil
  | cons c rest ih =>
    rw [lowercaseFrom] at h
    rcases List.mem_append.mp h with h | h
    · split_ifs at h with hsigma hfinal
      · exact .inl (List.mem_singleton.mp h)
      · obtain rfl := List.mem_singleton.mp h
        exact .inr ⟨c, List.mem_cons_self, hsigma ▸ by decide⟩
      · exact .inr ⟨c, List.mem_cons_self, h⟩
    · rcases ih h with hfinal | ⟨x, hx, hd⟩
      · exact .inl hfinal
      · exact .inr ⟨x, List.mem_cons_of_mem _ hx, hd⟩

/-- A character of a lowercase text is a sigma at the end of a word or comes from one character. -/
theorem eq_or_mem_lower_of_mem_lowercase {s : List Char} {d : Char} (h : d ∈ lowercase s) :
    d = '\u03c2' ∨ ∃ c ∈ s, d ∈ lower c :=
  eq_or_mem_lower_of_mem_lowercaseFrom h

theorem lowercase_ne_nil {s : List Char} (h : s ≠ []) : lowercase s ≠ [] := by
  obtain ⟨c, rest, rfl⟩ := List.exists_cons_of_ne_nil h
  rw [lowercase, lowercaseFrom]
  refine List.append_ne_nil_of_left_ne_nil ?_ _
  split_ifs
  · exact List.cons_ne_nil _ _
  · exact List.cons_ne_nil _ _
  · exact lower_ne_nil c

/-! ### Both small sigmas taken for one -/

/-- A character, with the small sigma that does not end words for the one that does. -/
def openSigma (c : Char) : Char :=
  if c = '\u03c2' then '\u03c3' else c

theorem map_openSigma_lowercaseFrom (before : Bool) (s : List Char) :
    (lowercaseFrom before s).map openSigma = s.flatMap fun c => (lower c).map openSigma := by
  induction s generalizing before with
  | nil => rfl
  | cons c rest ih =>
    rw [lowercaseFrom, List.map_append, ih, List.flatMap_cons]
    congr 1
    split_ifs with hsigma
    · rw [hsigma]
      decide
    · rw [hsigma]
      decide
    · rfl

/-- Neighbours decide about nothing else than the form of a small sigma. -/
theorem map_openSigma_lowercase (s : List Char) :
    (lowercase s).map openSigma = s.flatMap fun c => (lower c).map openSigma :=
  map_openSigma_lowercaseFrom false s

end DocSite.Text
