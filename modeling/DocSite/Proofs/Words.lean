import DocSite.Proofs.Distinct
import DocSite.Proofs.Text.Blank
import DocSite.Words

/-!
# The words of a document

* `tokens_eq`: the words that count are those of the lowercase text, so a text may be lowered as a
  whole before it is cut.
* `IsToken` is what all of them are like: without blanks, long, and lowered. A text that lists such
  words has them again (`tokens_of_lists`).
* `words_by_texts`: the words of a document depend on what its title and its body are together.
* `words_of_words`: words that are written out, in whatever order and however often, give the same
  words.
-/

namespace DocSite

open Text (isBlank lowercase)

/-! ### Words of a text -/

/-- The words that count are the long words of the lowercase text. -/
theorem tokens_eq (text : String) :
    tokens text = (Text.words (lowercase text.toList)).filter (minWordChars < ·.length) := by
  rw [tokens, Text.words_lowercase]

/-- Blanks part the words before them from those after them. -/
theorem tokens_append {gap : List Char} (hne : gap ≠ []) (hgap : ∀ c ∈ gap, isBlank c)
    (s t : String) : tokens (s ++ String.ofList gap ++ t) = tokens s ++ tokens t := by
  obtain ⟨c, gap, rfl⟩ := List.exists_cons_of_ne_nil hne
  obtain ⟨hc, hgap⟩ := List.forall_mem_cons.mp hgap
  -- The first blank parts the words, and the other ones belong to no word.
  have hwords : Text.words (s.toList ++ c :: (gap ++ t.toList)) =
      Text.words s.toList ++ Text.words t.toList := by
    rw [Text.words_append_cons _ _ hc]
    exact congrArg _ (Text.runs_append_of_forall_left hgap _)
  rw [tokens, String.toList_append, String.toList_append, String.toList_ofList, List.append_assoc,
    List.cons_append, hwords, List.map_append, List.filter_append, ← tokens, ← tokens]

/-- What a word that counts is like. -/
structure IsToken (w : List Char) : Prop where
  isBlank_eq_false : ∀ c ∈ w, isBlank c = false
  minWordChars_lt : minWordChars < w.length
  lowercase_eq : lowercase w = w

theorem IsToken.ne_nil {w : List Char} (h : IsToken w) : w ≠ [] :=
  List.ne_nil_of_length_pos (Nat.zero_lt_of_lt h.minWordChars_lt)

theorem isToken_of_mem_tokens {text : String} {w : List Char} (h : w ∈ tokens text) :
    IsToken w := by
  obtain ⟨hw, hlength⟩ := List.mem_filter.mp h
  obtain ⟨raw, hraw, rfl⟩ := List.mem_map.mp hw
  obtain ⟨-, hblank⟩ := Text.forall_of_mem_runs hraw
  exact {
    isBlank_eq_false := Text.isBlank_eq_false_of_mem_lowercase fun c hc => (hblank c hc).2
    minWordChars_lt := by simpa using hlength
    lowercase_eq := Text.lowercase_eq_self fun c hc => Text.isLowered_of_mem_lowercase hc }

/-- Words like these that are listed are found again, each as often and where it stands. -/
theorem tokens_of_lists {ws : List (List Char)} {text : String} (h : Text.Lists ws text.toList)
    (hws : ∀ w ∈ ws, IsToken w) : tokens text = ws := by
  have hwords : Text.words text.toList = ws :=
    Text.words_of_lists h fun w hw => ⟨(hws w hw).ne_nil, (hws w hw).isBlank_eq_false⟩
  have hlower : ws.map lowercase = ws :=
    (List.map_congr_left fun w hw => (hws w hw).lowercase_eq).trans (List.map_id ws)
  rw [tokens, hwords, hlower, List.filter_eq_self]
  exact fun w hw => decide_eq_true (hws w hw).minWordChars_lt

/-! ### Words of a document -/

namespace Document

theorem mem_words_iff {d : Document} {w : List Char} :
    w ∈ d.words ↔ w ∈ tokens d.title ∨ w ∈ tokens d.bodyText := by
  rw [words, List.mem_eraseDups, List.mem_append]

theorem isToken_of_mem_words {d : Document} {w : List Char} (h : w ∈ d.words) : IsToken w :=
  (mem_words_iff.mp h).elim isToken_of_mem_tokens isToken_of_mem_tokens

/-- The words of a document are those of its title and its body in one text. -/
theorem words_eq_of_gap (d : Document) {gap : List Char} (hne : gap ≠ [])
    (hgap : ∀ c ∈ gap, isBlank c) :
    d.words = (tokens (d.title ++ String.ofList gap ++ d.bodyText)).eraseDups := by
  rw [words, tokens_append hne hgap]

/-- **Words of title and body.** The words of a document are all different. They are those of more
than three characters of the lowercase title and of the lowercase body. Documents have the same
words if their titles and bodies are the same text when they are put together with blanks between
them, as they are if the title is put before the body and an empty title is left. -/
theorem words_by_texts (d : Document) :
    d.words.Nodup ∧
      (∀ w, w ∈ d.words ↔ 3 < w.length ∧
        (w ∈ Text.words (lowercase d.title.toList) ∨
          w ∈ Text.words (lowercase d.bodyText.toList))) ∧
      (∀ (e : Document) (gap gap' : List Char), gap ≠ [] → gap' ≠ [] → (∀ c ∈ gap, isBlank c) →
        (∀ c ∈ gap', isBlank c) →
        d.title ++ String.ofList gap ++ d.bodyText = e.title ++ String.ofList gap' ++ e.bodyText →
          d.words = e.words) ∧
      d.words = words { d with title := "", bodyText := d.title ++ " " ++ d.bodyText } := by
  refine ⟨nodup_eraseDups _, fun w => ?_, fun e gap gap' hne hne' hgap hgap' htext => ?_, ?_⟩
  · rw [mem_words_iff, tokens_eq, tokens_eq, List.mem_filter, List.mem_filter, ← or_and_right,
      decide_eq_true_eq, and_comm]
    rfl
  · rw [words_eq_of_gap d hne hgap, words_eq_of_gap e hne' hgap', htext]
  · have hblank : ∀ c ∈ [' '], isBlank c := List.forall_mem_singleton.mpr (by decide)
    rw [words_eq_of_gap d (List.cons_ne_nil ' ' []) hblank]
    rfl

/-- A title that may end at its first word or go on to the next one. A sigma ends the first word in
either case, and the second one has its fourth character from the lowercase of U+0130. -/
theorem words_by_texts_of_moved_gap :
    let d : Document := { id := "a", slug := "a", title := "ΟΔΟΣ\tİst", bodyText := "the ΟΔΟΣ" }
    let e : Document := { id := "a", slug := "a", title := "ΟΔΟΣ", bodyText := "İst the ΟΔΟΣ" }
    d.title ++ String.ofList [' '] ++ d.bodyText = e.title ++ String.ofList ['\t'] ++ e.bodyText ∧
      d.words = e.words ∧ d.words = ["οδος".toList, "i\u0307st".toList] := by
  intro d e
  have htext : d.title ++ String.ofList [' '] ++ d.bodyText =
      e.title ++ String.ofList ['\t'] ++ e.bodyText := by decide +kernel
  obtain ⟨-, -, hsame, -⟩ := words_by_texts d
  have hblank : ∀ c ∈ [' '], Text.isBlank c := List.forall_mem_singleton.mpr (by decide)
  have htab : ∀ c ∈ ['\t'], Text.isBlank c := List.forall_mem_singleton.mpr (by decide)
  exact ⟨htext, hsame e _ _ (List.cons_ne_nil _ _) (List.cons_ne_nil _ _) hblank htab htext,
    by decide +kernel⟩

/-- **Words of words.** The words of a document have no blanks, more than three characters, and are
their own lowercase. A document whose title and body list them, in whatever order and however often,
has the same words. -/
theorem words_of_words (d : Document) :
    (∀ w ∈ d.words, (∀ c ∈ w, isBlank c = false) ∧ 3 < w.length ∧ lowercase w = w) ∧
      ∀ (e : Document) (ws vs : List (List Char)), Text.Lists ws e.title.toList →
        Text.Lists vs e.bodyText.toList → (∀ w, w ∈ ws ++ vs ↔ w ∈ d.words) →
          e.words.Perm d.words := by
  constructor
  · intro w hw
    obtain ⟨hblank, hlength, hlower⟩ := isToken_of_mem_words hw
    exact ⟨hblank, hlength, hlower⟩
  · intro e ws vs hws hvs hmem
    -- All that is listed are words of a document already, so each text gives back its list.
    have htoken : ∀ w ∈ ws ++ vs, IsToken w := fun w hw => isToken_of_mem_words ((hmem w).mp hw)
    obtain ⟨htitle, hbody⟩ := List.forall_mem_append.mp htoken
    rw [words, tokens_of_lists hws htitle, tokens_of_lists hvs hbody]
    refine eraseDups_perm_of_mem_iff fun w => ?_
    rw [hmem, words, List.mem_eraseDups]

/-- Words written out backwards, one of them twice, with other blanks between them. -/
theorem words_of_words_of_repeated :
    let d : Document := { id := "a", slug := "a", title := "Naïve ΟΔΟΣ", bodyText := "the Naïve" }
    let e : Document :=
      { id := "b", slug := "b", title := " οδος\n\tοδος ", bodyText := "naïve" }
    Text.Lists ["οδος".toList, "οδος".toList] e.title.toList ∧
      Text.Lists ["naïve".toList] e.bodyText.toList ∧ e.words.Perm d.words ∧
      d.words = ["naïve".toList, "οδος".toList] := by
  intro d e
  have htitle : Text.Lists ["οδος".toList, "οδος".toList] e.title.toList := by
    have htext : e.title.toList =
        [' '] ++ "οδος".toList ++ '\n' :: (['\t'] ++ "οδος".toList ++ [' ']) := by decide +kernel
    rw [htext]
    exact .cons (List.forall_mem_singleton.mpr (by decide)) (by decide)
      (.cons (List.forall_mem_singleton.mpr (by decide)) (by decide)
        (.blanks (List.forall_mem_nil _)))
  have hbody : Text.Lists ["naïve".toList] e.bodyText.toList :=
    Text.Lists.last (List.forall_mem_nil _)
  have hwords : d.words = ["naïve".toList, "οδος".toList] := by decide +kernel
  have hmem : ∀ w, w ∈ ["οδος".toList, "οδος".toList] ++ ["naïve".toList] ↔ w ∈ d.words := by
    intro w
    rw [hwords]
    simp only [List.mem_append, List.mem_cons, List.not_mem_nil, or_false]
    tauto
  obtain ⟨-, hsame⟩ := words_of_words d
  exact ⟨htitle, hbody, hsame e _ _ htitle hbody hmem, hwords⟩

end Document

end DocSite
