import DocSite.Toml.Quoted
import Mathlib.Data.List.Basic
import Mathlib.Tactic.Common

/-!
# Written strings are read back

A string is written in one of four forms, and each has its reader. `read?_written` puts them
together: whatever the text, it is read up to its closing quotes, if no quote follows them.

* `basicBody?_escaped` and `multilineBasicBody?_escaped`: escapes make every text readable.
* `literalBody?_append` and `multilineLiteralBody?_append`: without escapes the text must not hold
  the closing quotes, nor a control character.
* `best_literal`: the form is chosen so that it does not.
-/

namespace DocSite.Toml

/-- Characters put in front of a body that was read. -/
def prepend (before : List Char) (r : Option (List Char × List Char)) :
    Option (List Char × List Char) :=
  r.map fun (body, rest) => (before ++ body, rest)

theorem prepend_append (xs ys : List Char) (r : Option (List Char × List Char)) :
    prepend (xs ++ ys) r = prepend xs (prepend ys r) := by
  cases r <;> simp [prepend]

@[simp]
theorem prepend_some (before body rest : List Char) :
    prepend before (some (body, rest)) = some (before ++ body, rest) :=
  rfl

@[simp]
theorem prepend_nil (r : Option (List Char × List Char)) : prepend [] r = r := by
  cases r <;> rfl

/-! ### Escapes -/

/-- The four digits of a control character write its number. -/
theorem numbered?_fourDigits {n : ℕ} (h : n < 128) (rest : List Char) :
    numbered? 4 (fourDigits n ++ rest) = some (Char.ofNat n, rest) := by
  have hall : ∀ m < 128, (fourDigits m).length = 4 ∧ (fourDigits m).all Text.isHexDigit ∧
      Text.numberOf 16 (fourDigits m) = m ∧ m.isValidChar := by
    decide +kernel
  obtain ⟨hlength, hdigits, hnumber, hvalid⟩ := hall n h
  have htake : (fourDigits n ++ rest).take 4 = fourDigits n := by
    rw [← hlength, List.take_left]
  have hdrop : (fourDigits n ++ rest).drop 4 = rest := by
    rw [← hlength, List.drop_left]
  simp only [numbered?, htake, hdrop, hnumber]
  rw [if_pos ⟨hlength, hdigits, hvalid⟩]

theorem toNat_lt_of_isControl {c : Char} (h : isControl c) : c.toNat < 128 := by
  simp only [isControl, Bool.or_eq_true, Bool.and_eq_true, decide_eq_true_eq, beq_iff_eq] at h
  omega

/-- What an escape is made of: a backslash and what is read as the character. -/
theorem unescape?_of_isControl {c : Char} (h : isControl c) (rest : List Char) :
    unescape? ('u' :: fourDigits c.toNat ++ rest) = some (c, rest) := by
  have hnumbered := numbered?_fourDigits (toNat_lt_of_isControl h) rest
  rw [Char.ofNat_toNat] at hnumbered
  rw [List.cons_append, unescape?, if_pos rfl, hnumbered]

/-- A character that stands for itself between double quotes. -/
structure IsPlain (c : Char) : Prop where
  ne_quote : c ≠ '"'
  ne_slash : c ≠ '\\'
  isControl_eq : isControl c = false

/-- Every character but a quote is written as it is or as an escape of it. On several lines a line
end is written as it is. -/
theorem escape_cases (multiline : Bool) {c : Char} (hquote : c ≠ '"') :
    (escape multiline c = [c] ∧ IsPlain c) ∨
      (escape multiline c = ['\n'] ∧ c = '\n' ∧ multiline = true) ∨
      ∃ e es, escape multiline c = '\\' :: e :: es ∧ (∀ rest, unescape? (e :: es ++ rest) =
        some (c, rest)) ∧ ∀ rest, blankLine (e :: rest) = false := by
  have hletter {e : Char} (he : ∀ rest, unescape? (e :: rest) = some (c, rest))
      (hblank : ∀ rest, blankLine (e :: rest) = false) :
      ∃ e' es, ['\\', e] = '\\' :: e' :: es ∧ (∀ rest, unescape? (e' :: es ++ rest) =
        some (c, rest)) ∧ ∀ rest, blankLine (e' :: rest) = false :=
    ⟨e, [], rfl, he, hblank⟩
  unfold escape
  split_ifs with hback htab hline hmultiline hfeed hreturn hslash hcontrol
  · exact .inr (.inr (hletter (fun rest => by rw [hback]; rfl) fun rest => rfl))
  · exact .inr (.inr (hletter (fun rest => by rw [htab]; rfl) fun rest => rfl))
  · exact .inr (.inl ⟨rfl, hline, hmultiline⟩)
  · exact .inr (.inr (hletter (fun rest => by rw [hline]; rfl) fun rest => rfl))
  · exact .inr (.inr (hletter (fun rest => by rw [hfeed]; rfl) fun rest => rfl))
  · exact .inr (.inr (hletter (fun rest => by rw [hreturn]; rfl) fun rest => rfl))
  · exact .inr (.inr (hletter (fun rest => by rw [hslash]; rfl) fun rest => rfl))
  · exact .inr (.inr ⟨'u', fourDigits c.toNat, rfl, unescape?_of_isControl hcontrol,
      fun rest => rfl⟩)
  · exact .inl ⟨rfl, hquote, hslash, eq_false_of_ne_true hcontrol⟩

/-! ### One line, double quotes -/

theorem basicBody?_quote (rest : List Char) : basicBody? ('"' :: rest) = some ([], rest) := by
  rw [basicBody?, if_pos rfl]

theorem basicBody?_escape {s after : List Char} {c : Char} (h : unescape? s = some (c, after)) :
    basicBody? ('\\' :: s) = prepend [c] (basicBody? after) := by
  rw [basicBody?, if_neg (by decide), if_pos rfl]
  split
  · rename_i hnone
    rw [h] at hnone
    cases hnone
  · rename_i hsome
    rw [h] at hsome
    cases hsome
    rfl

theorem basicBody?_plain {c : Char} (h : IsPlain c) (s : List Char) :
    basicBody? (c :: s) = prepend [c] (basicBody? s) := by
  rw [basicBody?, if_neg h.ne_quote, if_neg h.ne_slash, h.isControl_eq]
  rfl

/-- With escapes, every text is read up to its closing quote. -/
theorem basicBody?_escaped (s rest : List Char) (run : ℕ) :
    basicBody? (escaped false run s ++ '"' :: rest) = some (s, rest) := by
  induction s generalizing run with
  | nil => exact basicBody?_quote rest
  | cons c s ih =>
    rw [escaped]
    split_ifs with hquote hplain
    · simp at hplain
    · have hunescape : unescape? ('"' :: (escaped false 0 s ++ '"' :: rest)) =
          some ('"', escaped false 0 s ++ '"' :: rest) := rfl
      rw [hquote, List.cons_append, List.cons_append, basicBody?_escape hunescape, ih]
      rfl
    · rw [List.append_assoc]
      obtain ⟨hescape, hc⟩ | ⟨-, -, hfalse⟩ | ⟨e, es, hescape, hc, -⟩ :=
        escape_cases false hquote
      · rw [hescape, List.singleton_append, basicBody?_plain hc, ih]
        rfl
      · cases hfalse
      · rw [hescape, List.cons_append, basicBody?_escape (hc _), ih]
        rfl

/-! ### One line, single quotes -/

theorem literalBody?_append {s : List Char} (hquote : '\'' ∉ s)
    (hcontrol : ∀ c ∈ s, isControl c = false)
    (rest : List Char) : literalBody? (s ++ '\'' :: rest) = some (s, rest) := by
  induction s with
  | nil => rw [List.nil_append, literalBody?, if_pos rfl]
  | cons c s ih =>
    obtain ⟨hc, hs⟩ := List.forall_mem_cons.mp hcontrol
    have hne : c ≠ '\'' := fun h => hquote (h ▸ List.mem_cons_self)
    rw [List.cons_append, literalBody?, if_neg hne, hc,
      ih (fun h => hquote (List.mem_cons_of_mem c h)) hs]
    rfl

/-! ### Runs of quotes on several lines -/

theorem le_longestRun (q : Char) (run longest : ℕ) (s : List Char) :
    longest ≤ longestRun q run longest s := by
  induction s generalizing run longest with
  | nil => exact Nat.le_refl longest
  | cons c s ih =>
    rw [longestRun]
    split_ifs
    · exact Nat.le_trans (Nat.le_max_left longest (run + 1)) (ih (run + 1) _)
    · exact ih 0 longest

/-- A text with no run of a character does not have it. -/
theorem notMem_of_longestRun_eq_zero {q : Char} {run longest : ℕ} {s : List Char}
    (h : longestRun q run longest s = 0) : q ∉ s := by
  induction s generalizing run longest with
  | nil => exact List.not_mem_nil
  | cons c s ih =>
    rw [longestRun] at h
    split_ifs at h with hc
    · have hle := le_longestRun q (run + 1) (max longest (run + 1)) s
      omega
    · exact List.not_mem_cons_of_ne_of_not_mem (Ne.symm hc) (ih h)

theorem closing_replicate {q : Char} {run : ℕ} (hrun : run ≤ 2) {rest : List Char}
    (hrest : rest.head? ≠ some q) :
    closing q (List.replicate run q ++ rest) = (List.replicate run q, rest) := by
  obtain rfl | rfl | rfl : run = 0 ∨ run = 1 ∨ run = 2 := by omega
  · cases rest with
    | nil => rfl
    | cons c rest =>
      have hc : c ≠ q := fun h => hrest (congrArg some h)
      simp [closing, hc]
  · cases rest with
    | nil => simp [closing]
    | cons c rest =>
      have hc : c ≠ q := fun h => hrest (congrArg some h)
      simp [closing, hc]
  · simp [closing]

/-- A reader that takes quotes as they are unless three of them close the string. -/
structure ReadsQuotes (q : Char) (read : List Char → Option (List Char × List Char)) : Prop where
  close : ∀ s, read (q :: q :: q :: s) = some (closing q s)
  step : ∀ s, (∀ t, s ≠ q :: q :: t) → read (q :: s) = prepend [q] (read s)

namespace ReadsQuotes

variable {q : Char} {read : List Char → Option (List Char × List Char)} {run : ℕ}

/-- Up to two quotes before something else belong to the text. -/
theorem read_replicate (h : ReadsQuotes q read) (hrun : run ≤ 2) {s : List Char}
    (hs : s.head? ≠ some q) :
    read (List.replicate run q ++ s) = prepend (List.replicate run q) (read s) := by
  have hone : ∀ t, s ≠ q :: t := by
    rintro t rfl
    exact hs rfl
  obtain rfl | rfl | rfl : run = 0 ∨ run = 1 ∨ run = 2 := by omega
  · exact (prepend_nil (read s)).symm
  · exact h.step s fun t => hone (q :: t)
  · have htwo := h.step (q :: s) fun t ht => hone t (List.cons.inj ht).2
    have hrest := h.step s fun t => hone (q :: t)
    rw [hrest] at htwo
    exact htwo.trans (prepend_append [q] [q] (read s)).symm

/-- Up to two quotes before the closing ones belong to the text. -/
theorem read_close (h : ReadsQuotes q read) (hrun : run ≤ 2) {rest : List Char}
    (hrest : rest.head? ≠ some q) :
    read (List.replicate run q ++ (List.replicate 3 q ++ rest)) =
      some (List.replicate run q, rest) := by
  have hquotes : List.replicate run q ++ (List.replicate 3 q ++ rest) =
      q :: q :: q :: (List.replicate run q ++ rest) := by
    rw [← List.append_assoc, ← List.replicate_add, Nat.add_comm, List.replicate_add,
      List.append_assoc]
    rfl
  rw [hquotes, h.close, closing_replicate hrun hrest]

end ReadsQuotes

/-! ### Several lines -/

/-- A character that stands for itself on several lines. -/
def IsText (c : Char) : Prop :=
  isControl c = false ∨ c = '\n'

theorem IsText.ne_return {c : Char} (h : IsText c) : c ≠ '\r' := by
  rintro rfl
  exact absurd h (by unfold IsText; decide)

theorem IsText.guard_eq {c : Char} (h : IsText c) : (isControl c && c != '\n') = false := by
  rcases h with h | rfl
  · rw [h, Bool.false_and]
  · rfl

theorem multilineBasicBody?_text {c : Char} (h : IsText c) (hslash : c ≠ '\\') {s : List Char}
    (hquote : ∀ t, c = '"' → s ≠ '"' :: '"' :: t) :
    multilineBasicBody? (c :: s) = prepend [c] (multilineBasicBody? s) := by
  rw [multilineBasicBody?.eq_5 c s hquote (fun _ hc => absurd hc h.ne_return) hslash, h.guard_eq]
  rfl

theorem multilineBasicBody?_escape {s after : List Char} {c : Char}
    (h : unescape? s = some (c, after)) (hblank : blankLine s = false) :
    multilineBasicBody? ('\\' :: s) = prepend [c] (multilineBasicBody? after) := by
  rw [multilineBasicBody?, if_neg (ne_true_of_eq_false hblank)]
  split
  · rename_i hnone
    rw [h] at hnone
    cases hnone
  · rename_i hsome
    rw [h] at hsome
    cases hsome
    rfl

theorem readsQuotes_basic : ReadsQuotes '"' multilineBasicBody? :=
  ⟨multilineBasicBody?.eq_2, fun _ hs =>
    multilineBasicBody?_text (.inl rfl) (by decide) fun t _ => hs t⟩

theorem readsQuotes_literal : ReadsQuotes '\'' multilineLiteralBody? := by
  refine ⟨multilineLiteralBody?.eq_2, fun s hs => ?_⟩
  rw [multilineLiteralBody?.eq_4 '\'' s (fun t _ => hs t) fun t h => absurd h (by decide)]
  rfl

theorem multilineLiteralBody?_text {c : Char} (h : IsText c) (hquote : c ≠ '\'') (s : List Char) :
    multilineLiteralBody? (c :: s) = prepend [c] (multilineLiteralBody? s) := by
  rw [multilineLiteralBody?.eq_4 c s (fun _ hc => absurd hc hquote)
    (fun _ hc => absurd hc h.ne_return), h.guard_eq]
  rfl

/-- An escape never starts with a quote. -/
theorem head?_escape (multiline : Bool) {c : Char} (hquote : c ≠ '"') (s : List Char) :
    (escape multiline c ++ s).head? ≠ some '"' := by
  obtain ⟨hescape, -⟩ | ⟨hescape, -, -⟩ | ⟨e, es, hescape, -, -⟩ := escape_cases multiline hquote
  · rw [hescape]
    exact fun h => hquote (Option.some.inj h)
  · rw [hescape]
    exact fun h => absurd (Option.some.inj h) (by decide)
  · rw [hescape]
    exact fun h => absurd (Option.some.inj h) (by decide)

theorem multilineBasicBody?_escape_append {c : Char} (hquote : c ≠ '"') (s : List Char) :
    multilineBasicBody? (escape true c ++ s) = prepend [c] (multilineBasicBody? s) := by
  obtain ⟨hescape, hc⟩ | ⟨hescape, rfl, -⟩ | ⟨e, es, hescape, hc, hblank⟩ :=
    escape_cases true hquote
  · rw [hescape]
    exact multilineBasicBody?_text (.inl hc.isControl_eq) hc.ne_slash fun _ h => absurd h hquote
  · rw [hescape]
    exact multilineBasicBody?_text (.inr rfl) (by decide) fun _ h => absurd h hquote
  · rw [hescape, List.cons_append]
    exact multilineBasicBody?_escape (hc s) (hblank _)

/-- With escapes, every text is read up to its closing quotes. The quotes before the text are those
of the text that was already written. -/
theorem multilineBasicBody?_escaped {run : ℕ} (hrun : run ≤ 2) (s : List Char) {rest : List Char}
    (hrest : rest.head? ≠ some '"') :
    multilineBasicBody?
        (List.replicate run '"' ++ (escaped true run s ++ (List.replicate 3 '"' ++ rest))) =
      some (List.replicate run '"' ++ s, rest) := by
  induction s generalizing run with
  | nil =>
    rw [escaped, List.nil_append, List.append_nil]
    exact readsQuotes_basic.read_close hrun hrest
  | cons c s ih =>
    rw [escaped]
    split_ifs with hquote hplain
    · -- One more quote as it is.
      have hlt : run < 2 := by simpa using hplain
      have hread := ih (Nat.succ_le_of_lt hlt)
      rw [List.replicate_succ', List.append_assoc, List.append_assoc] at hread
      rw [hquote]
      exact hread
    · -- A third quote is escaped, and the run starts again.
      have hread := ih (Nat.zero_le 2)
      rw [List.replicate_zero, List.nil_append, List.nil_append] at hread
      have hhead {s : List Char} : ('\\' :: s).head? ≠ some '"' :=
        fun h => absurd (Option.some.inj h) (by decide)
      rw [List.cons_append, List.cons_append, readsQuotes_basic.read_replicate hrun hhead,
        multilineBasicBody?_escape (c := '"') (by rfl) (by rfl), hread, hquote]
      rfl
    · have hread := ih (Nat.zero_le 2)
      rw [List.replicate_zero, List.nil_append, List.nil_append] at hread
      rw [List.append_assoc, readsQuotes_basic.read_replicate hrun (head?_escape true hquote _),
        multilineBasicBody?_escape_append hquote, hread]
      rfl

/-- Without escapes, a text with no three quotes in a row is read up to its closing quotes. -/
theorem multilineLiteralBody?_append {run longest : ℕ} (hrun : run ≤ longest) {s : List Char}
    (hlongest : longestRun '\'' run longest s ≤ 2) (htext : ∀ c ∈ s, IsText c) {rest : List Char}
    (hrest : rest.head? ≠ some '\'') :
    multilineLiteralBody?
        (List.replicate run '\'' ++ (s ++ (List.replicate 3 '\'' ++ rest))) =
      some (List.replicate run '\'' ++ s, rest) := by
  have hle : run ≤ 2 :=
    Nat.le_trans hrun (Nat.le_trans (le_longestRun '\'' run longest s) hlongest)
  induction s generalizing run longest with
  | nil =>
    rw [List.nil_append, List.append_nil]
    exact readsQuotes_literal.read_close hle hrest
  | cons c s ih =>
    obtain ⟨hc, hs⟩ := List.forall_mem_cons.mp htext
    rw [longestRun] at hlongest
    split_ifs at hlongest with hquote
    · have hnext : run + 1 ≤ max longest (run + 1) := Nat.le_max_right _ _
      have hmax := Nat.le_trans (le_longestRun '\'' (run + 1) _ s) hlongest
      have hread := ih hnext hlongest hs (Nat.le_trans hnext hmax)
      rw [List.replicate_succ', List.append_assoc, List.append_assoc] at hread
      rw [hquote]
      exact hread
    · have hread := ih (Nat.zero_le longest) hlongest hs (by omega)
      rw [List.replicate_zero, List.nil_append, List.nil_append] at hread
      have hhead : (c :: s ++ (List.replicate 3 '\'' ++ rest)).head? ≠ some '\'' :=
        fun h => hquote (Option.some.inj h)
      rw [readsQuotes_literal.read_replicate hle hhead, List.cons_append,
        multilineLiteralBody?_text hc hquote, hread]
      rfl

/-! ### The best form -/

/-- A form without escapes is chosen only for a text that needs none. -/
theorem best_literal {s : List Char} {multiline : Bool}
    (h : StringForm.best s = ⟨true, multiline⟩) :
    (∀ c ∈ s, IsText c) ∧ if multiline then longestRun '\'' 0 0 s ≤ 2 else
      longestRun '\'' 0 0 s = 0 ∧ '\n' ∉ s := by
  rw [StringForm.best] at h
  by_cases hcontrol : (s.any fun c => isControl c && c != '\n') = true
  · rw [if_pos hcontrol] at h
    cases h
  · have htext : ∀ c ∈ s, IsText c := by
      intro c hc
      by_contra hnot
      obtain ⟨hctrl, hline⟩ := not_or.mp hnot
      exact hcontrol (List.any_eq_true.mpr ⟨c, hc, by simp [hctrl, hline]⟩)
    rw [if_neg hcontrol] at h
    split_ifs at h with _ hsingle _ hsingles
    all_goals cases h
    · exact ⟨htext, by simpa using hsingle⟩
    · exact ⟨htext, by simpa using hsingles⟩

/-- A line end in front of a text is dropped again, and no other one. -/
theorem dropLine_append {s text : List Char}
    (h : ∀ c ∈ text.head?, c ≠ '\r' ∧ (c = '\n' → '\n' ∈ s)) :
    dropLine ((if s.contains '\n' then ['\n'] else []) ++ text) = text := by
  split_ifs with hline
  · rfl
  · refine dropLine.eq_3 text (fun rest htext => ?_) fun rest htext => ?_
    · obtain ⟨-, hmem⟩ := h '\n' (by rw [htext]; rfl)
      exact hline (List.contains_iff_mem.mpr (hmem rfl))
    · obtain ⟨hreturn, -⟩ := h '\r' (by rw [htext]; rfl)
      exact hreturn rfl

/-- What a text between double quotes starts with. -/
theorem head?_escaped {s rest : List Char} {c : Char}
    (hc : c ∈ (escaped true 0 s ++ (List.replicate 3 '"' ++ rest)).head?) :
    c ≠ '\r' ∧ (c = '\n' → '\n' ∈ s) := by
  cases s with
  | nil =>
    obtain rfl : '"' = c := Option.some.inj hc
    exact ⟨by decide, fun h => absurd h (by decide)⟩
  | cons d s =>
    rw [escaped] at hc
    split_ifs at hc with hquote hplain
    · obtain rfl : d = c := Option.some.inj hc
      rw [hquote]
      exact ⟨by decide, fun h => absurd h (by decide)⟩
    · exact absurd rfl hplain
    · obtain ⟨hescape, hd⟩ | ⟨hescape, hd, -⟩ | ⟨e, es, hescape, -, -⟩ :=
        escape_cases true hquote
      · rw [hescape] at hc
        obtain rfl : d = c := Option.some.inj hc
        exact ⟨IsText.ne_return (.inl hd.isControl_eq), fun h => h ▸ List.mem_cons_self⟩
      · rw [hescape] at hc
        obtain rfl : '\n' = c := Option.some.inj hc
        exact ⟨by decide, fun _ => hd ▸ List.mem_cons_self⟩
      · rw [hescape] at hc
        obtain rfl : '\\' = c := Option.some.inj hc
        exact ⟨by decide, fun h => absurd h (by decide)⟩

/-- On one line, three quotes start no string: the second one closes it. -/
theorem read?_eq_readLine? {q : Char} {text rest : List Char}
    (htext : text ≠ [] → text.head? ≠ some q)
    (hrest : rest.head? ≠ some q) :
    read? (q :: (text ++ q :: rest)) = readLine? (q :: (text ++ q :: rest)) := by
  have hthree : ∀ t, text ++ q :: rest ≠ q :: q :: t := by
    intro t ht
    cases text with
    | nil => exact hrest (by rw [(List.cons.inj ht).2]; rfl)
    | cons c text => exact htext (List.cons_ne_nil c text) (congrArg some (List.cons.inj ht).1)
  refine read?.eq_3 _ (fun t ht => ?_) fun t ht => ?_
  · obtain ⟨rfl, htail⟩ := List.cons.inj ht
    exact hthree t htail
  · obtain ⟨rfl, htail⟩ := List.cons.inj ht
    exact hthree t htail

/-- A written text is read back, whatever it is, if no quote follows. -/
theorem read?_written (s : List Char) {rest : List Char} (hdouble : rest.head? ≠ some '"')
    (hsingle : rest.head? ≠ some '\'') : read? (written s ++ rest) = some (s, rest) := by
  rw [written]
  generalize hform : StringForm.best s = form
  obtain ⟨literal, multiline⟩ := form
  cases literal <;> cases multiline
  · -- One line with escapes.
    have hhead : escaped false 0 s ≠ [] → (escaped false 0 s).head? ≠ some '"' := by
      intro hne
      cases s with
      | nil => exact absurd rfl hne
      | cons c s =>
        rw [escaped]
        split_ifs with hquote hplain
        · simp at hplain
        · exact fun h => absurd (Option.some.inj h) (by decide)
        · exact head?_escape false hquote _
    have hread := (read?_eq_readLine? hhead hdouble).trans (basicBody?_escaped s rest 0)
    simpa [StringForm.quotes, StringForm.quote] using hread
  · -- Several lines with escapes.
    have hread := multilineBasicBody?_escaped (Nat.zero_le 2) s hdouble
    rw [List.replicate_zero, List.nil_append, List.nil_append] at hread
    rw [← dropLine_append fun c => head?_escaped] at hread
    simpa [StringForm.quotes, StringForm.quote, read?] using hread
  · -- One line as it is.
    obtain ⟨htext, hsingles, hline⟩ := best_literal hform
    have hquote := notMem_of_longestRun_eq_zero hsingles
    have hcontrol : ∀ c ∈ s, isControl c = false := fun c hc =>
      (htext c hc).resolve_right fun h => hline (h ▸ hc)
    have hhead : s ≠ [] → s.head? ≠ some '\'' := fun _ h => hquote (List.mem_of_mem_head? h)
    have hread := (read?_eq_readLine? hhead hsingle).trans
      (literalBody?_append hquote hcontrol rest)
    simpa [StringForm.quotes, StringForm.quote] using hread
  · -- Several lines as they are.
    obtain ⟨htext, hsingles⟩ := best_literal hform
    have hread := multilineLiteralBody?_append (Nat.le_refl 0) hsingles htext hsingle
    have hhead : ∀ c ∈ (s ++ (List.replicate 3 '\'' ++ rest)).head?,
        c ≠ '\r' ∧ (c = '\n' → '\n' ∈ s) := by
      intro c hc
      cases s with
      | nil =>
        obtain rfl : '\'' = c := Option.some.inj hc
        exact ⟨by decide, fun h => absurd h (by decide)⟩
      | cons d s =>
        obtain rfl : d = c := Option.some.inj hc
        exact ⟨(htext d List.mem_cons_self).ne_return, fun h => h ▸ List.mem_cons_self⟩
    rw [List.replicate_zero, List.nil_append, List.nil_append, ← dropLine_append hhead] at hread
    simpa [StringForm.quotes, StringForm.quote, read?] using hread

end DocSite.Toml
