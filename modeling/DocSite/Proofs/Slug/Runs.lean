import DocSite.Proofs.Slug.Parts

/-!
# Slugs from the runs of a raw text

Cleaning lowers a whole text and cuts it then. One can also cut the raw text, at everything that is
no letter or digit and at the uppercase characters that have no lowercase, and then lower each run
by itself (`cleanRuns`).

* `cleanChars_eq_cleanRuns_settle`: both ways give one slug once the text is settled, which takes
  the whole text.
* `cleanChars_eq_cleanRuns`: so they give one slug for a text without U+0130 in which no sigma meets
  a separator that it looks past.
* `cleanChars_ne_cleanRuns`: with a U+0130 they never do, because the second character of its
  lowercase is no letter.
* `map_openSigma_cleanChars_eq`: texts with the same runs have the same slug but for the forms of
  small sigmas.
* `clean_append_ne`: a character that is no letter or digit parts a slug, whatever looks past it.
* `clean_by_runs` puts these together, and `clean_splits_and_looks_past_runs` shows texts whose slug
  is not that of their runs.
-/

namespace DocSite.Slug

open Text (IsBoundary lower lowercase openSigma settle)

/-- A character at which a raw text is cut: one that is no letter or digit, or an uppercase one that
is its own lowercase. -/
def isCut (c : Char) : Bool :=
  !Text.isAlphanumeric c || Text.isUppercase c && lower c == [c]

/-- The maximal non-empty runs of a raw text between cuts. -/
def rawRuns (s : List Char) : List (List Char) :=
  Text.runs isCut s

/-- The slug of a text whose runs are lowered one by one. -/
def cleanRuns (s : List Char) : List Char :=
  join ((rawRuns s).map lowercase)

/-! ### Characters -/

theorem lower_of_isCut {c : Char} (h : isCut c) : lower c = [c] ∧ isSeparator c := by
  rcases Bool.or_eq_true_iff.mp h with hother | hupper
  · have hnot : Text.isAlphanumeric c = false := by simpa using hother
    exact ⟨Text.lower_eq_self_of_not_isAlphanumeric hnot, by rw [isSeparator, hother, Bool.true_or]⟩
  · obtain ⟨hupper, hlower⟩ := Bool.and_eq_true_iff.mp hupper
    exact ⟨beq_iff_eq.mp hlower, by rw [isSeparator, hupper, Bool.or_true]⟩

theorem forall_isCut_eq_false {s : List Char} (h : s.all (!isCut ·)) :
    ∀ c ∈ s, isCut c = false := by
  simpa using h

/-- The lowercase of a character of a run is no separator, unless that character is U+0130. -/
theorem isSeparator_eq_false_of_mem_lower {c d : Char} (hc : isCut c = false)
    (hdotted : c ≠ '\u0130') (hd : d ∈ lower c) : isSeparator d = false := by
  rw [isSeparator_eq_false_iff]
  rcases Text.lower_cases c with h | hself | ⟨e, he, -, halnum, hupper⟩
  · exact absurd h hdotted
  · rw [hself] at hd
    obtain rfl := List.mem_singleton.mp hd
    simpa [isCut, hself] using hc
  · rw [he] at hd
    obtain rfl := List.mem_singleton.mp hd
    exact ⟨halnum, hupper⟩

/-! ### Runs -/

/-- What a part of a text without cuts is lowered to has no separator. -/
theorem isSeparator_eq_false_of_mem_lowercase {r : List Char} (hr : ∀ c ∈ r, isCut c = false)
    (hdotted : '\u0130' ∉ r) : ∀ d ∈ lowercase r, isSeparator d = false := by
  intro d hd
  rcases Text.eq_or_mem_lower_of_mem_lowercase hd with rfl | ⟨c, hc, hd⟩
  · decide
  · exact isSeparator_eq_false_of_mem_lower (hr c hc) (ne_of_mem_of_not_mem hc hdotted) hd

/-- A part of a text without cuts is lowered to one run. -/
theorem runs_lowercase_of_part {r : List Char} (hr : ∀ c ∈ r, isCut c = false)
    (hdotted : '\u0130' ∉ r) : runs (lowercase r) = (rawRuns r).map lowercase := by
  by_cases hne : r = []
  · rw [hne]
    rfl
  · have hraw : rawRuns r = [r] := Text.runs_eq_singleton hne hr
    rw [hraw, List.map_singleton]
    exact Text.runs_eq_singleton (Text.lowercase_ne_nil hne)
      (isSeparator_eq_false_of_mem_lowercase hr hdotted)

/-- The runs of a lowercase text are those of the settled text, lowered one by one. -/
theorem runs_lowercase_eq_map_settle (s : List Char) :
    runs (lowercase s) = (rawRuns (settle s)).map lowercase := by
  have hcut : ∀ c, isCut c → ∃ d, lower c = [d] ∧ isSeparator d :=
    fun c hc => ⟨c, lower_of_isCut hc⟩
  have hrun : ∀ r ∈ rawRuns (settle s), runs (r.flatMap lower) = [lowercase r] := by
    intro r hr
    obtain ⟨hne, hall⟩ := Text.forall_of_mem_runs hr
    have hsigma : '\u03a3' ∉ r := fun hmem => (Text.ne_of_mem_settle (hall _ hmem).1).1 rfl
    have hdotted : '\u0130' ∉ r := fun hmem => (Text.ne_of_mem_settle (hall _ hmem).1).2 rfl
    have hnot : ∀ c ∈ r, isCut c = false := fun c hc => (hall c hc).2
    have hraw : rawRuns r = [r] := Text.runs_eq_singleton hne hnot
    rw [← Text.lowercase_eq_flatMap hsigma, runs_lowercase_of_part hnot hdotted, hraw,
      List.map_singleton]
  calc runs (lowercase s)
      = Text.runs isSeparator ((settle s).flatMap lower) := by
        rw [Text.lowercase_eq_flatMap_settle]
        rfl
    _ = (rawRuns (settle s)).flatMap fun r => runs (r.flatMap lower) :=
      Text.runs_flatMap hcut (settle s)
    _ = (rawRuns (settle s)).flatMap fun r => [lowercase r] := List.flatMap_congr hrun
    _ = (rawRuns (settle s)).map lowercase := List.map_eq_flatMap.symm

/-- The slug of a text is that of the runs of the settled text. -/
theorem cleanChars_eq_cleanRuns_settle (s : List Char) : cleanChars s = cleanRuns (settle s) := by
  rw [cleanChars, runs_lowercase_eq_map_settle, cleanRuns]

/-- Where every cut is a boundary, each run is lowered on its own. -/
theorem runs_lowercase_of_boundaries {s : List Char} (hdotted : '\u0130' ∉ s)
    (hcut : ∀ c ∈ s, isCut c → IsBoundary c) : runs (lowercase s) = (rawRuns s).map lowercase := by
  induction s using Text.parts_induction isCut with
  | last r hr => exact runs_lowercase_of_part hr hdotted
  | cut r sep s hr hsep ih =>
    obtain ⟨hr', hs⟩ : '\u0130' ∉ r ∧ '\u0130' ∉ s := by simp_all
    obtain ⟨-, hcut⟩ := List.forall_mem_append.mp hcut
    obtain ⟨hboundary, hcut⟩ := List.forall_mem_cons.mp hcut
    obtain ⟨hlower, hseparator⟩ := lower_of_isCut hsep
    have hruns : runs (lowercase r ++ sep :: lowercase s) =
        runs (lowercase r) ++ runs (lowercase s) := Text.runs_append_cons _ _ hseparator
    have hraw : rawRuns (r ++ sep :: s) = rawRuns r ++ rawRuns s := Text.runs_append_cons _ _ hsep
    rw [Text.lowercase_append_cons (hboundary hsep), hlower, List.singleton_append, hruns,
      runs_lowercase_of_part hr hr', ih hs hcut, hraw, List.map_append]

/-- Without U+0130, and without a sigma that looks past a cut, a text may be cut first. -/
theorem cleanChars_eq_cleanRuns {s : List Char} (hdotted : '\u0130' ∉ s)
    (h : '\u03a3' ∉ s ∨ ∀ c ∈ s, isCut c → IsBoundary c) : cleanChars s = cleanRuns s := by
  rcases h with hsigma | hcut
  · rw [cleanChars_eq_cleanRuns_settle, Text.settle_eq_self hsigma hdotted]
  · rw [cleanChars, runs_lowercase_of_boundaries hdotted hcut, cleanRuns]

/-! ### Texts with U+0130 -/

/-- With a U+0130 a text may not be cut first: its lowercase would bring U+0307 into the slug. -/
theorem cleanChars_ne_cleanRuns {s : List Char} (h : '\u0130' ∈ s) :
    cleanChars s ≠ cleanRuns s := by
  have hmark : '\u0307' ∈ cleanRuns s := by
    obtain ⟨r, hr, hmem⟩ :=
      Text.exists_mem_runs h (show isCut '\u0130' = false by decide)
    refine mem_join_of_mem (List.mem_map_of_mem hr) ?_
    exact Text.mem_lowercaseFrom hmem (by decide) (by decide)
  have hclean : '\u0307' ∉ cleanChars s := by
    intro hmem
    rcases mem_join hmem with heq | ⟨r, hr, hmem⟩
    · exact absurd heq (by decide)
    · have hfalse := (isRun_of_mem_runs_lowercase hr).isSeparator_eq_false _ hmem
      exact absurd hfalse (by decide +kernel)
  intro heq
  rw [heq] at hclean
  exact hclean hmark

/-! ### Texts with the same runs -/

theorem map_join {f : Char → Char} (hf : f '-' = '-') (rs : List (List Char)) :
    (join rs).map f = join (rs.map (List.map f)) := by
  induction rs with
  | nil => rfl
  | cons r rs ih =>
    by_cases hlast : rs = []
    · subst hlast
      simp [join]
    · rw [join_cons hlast, List.map_append, List.map_cons, hf, ih, List.map_cons,
        join_cons (by simpa using hlast)]

theorem isSeparator_openSigma (c : Char) : isSeparator (openSigma c) = isSeparator c := by
  unfold openSigma
  split_ifs with hsigma
  · rw [hsigma]
    decide
  · rfl

/-- Both small sigmas taken for one, the runs of a lowercase text come from it character by
character. -/
theorem map_openSigma_runs_lowercase (s : List Char) :
    (runs (lowercase s)).map (List.map openSigma) =
      runs (s.flatMap fun c => (lower c).map openSigma) := by
  have hmap : (runs (lowercase s)).map (List.map openSigma) = runs ((lowercase s).map openSigma) :=
    (Text.runs_map isSeparator_openSigma _).symm
  rw [hmap, Text.map_openSigma_lowercase]

/-- Texts with the same runs have the same slug, both small sigmas taken for one. -/
theorem map_openSigma_cleanChars_eq {s t : List Char} (h : rawRuns s = rawRuns t) :
    (cleanChars s).map openSigma = (cleanChars t).map openSigma := by
  have hcut : ∀ c, isCut c → ∃ d, (lower c).map openSigma = [d] ∧ isSeparator d := by
    intro c hc
    obtain ⟨hlower, hsep⟩ := lower_of_isCut hc
    exact ⟨openSigma c, by rw [hlower, List.map_singleton], by rwa [isSeparator_openSigma]⟩
  have hruns (u : List Char) : (runs (lowercase u)).map (List.map openSigma) =
      (rawRuns u).flatMap fun r => runs (r.flatMap fun c => (lower c).map openSigma) := by
    rw [map_openSigma_runs_lowercase]
    exact Text.runs_flatMap hcut u
  have hhyphen : openSigma '-' = '-' := by decide
  rw [cleanChars, map_join hhyphen, hruns, h, ← hruns, ← map_join hhyphen, cleanChars]

/-- Texts with the same runs have the same slug if no capital sigma is in them. -/
theorem cleanChars_eq_of_rawRuns_eq {s t : List Char} (h : rawRuns s = rawRuns t)
    (hs : '\u03a3' ∉ s) : cleanChars s = cleanChars t := by
  have hcut : ∀ c, isCut c → ∃ d, lower c = [d] ∧ isSeparator d :=
    fun c hc => ⟨c, lower_of_isCut hc⟩
  have hruns {u : List Char} (hu : '\u03a3' ∉ u) :
      runs (lowercase u) = (rawRuns u).flatMap fun r => runs (r.flatMap lower) := by
    rw [Text.lowercase_eq_flatMap hu]
    exact Text.runs_flatMap hcut u
  have ht : '\u03a3' ∉ t := by
    intro hmem
    obtain ⟨r, hr, hsigma⟩ :=
      Text.exists_mem_runs hmem (show isCut '\u03a3' = false by decide)
    have hr' : r ∈ rawRuns s := h ▸ hr
    exact hs ((Text.forall_of_mem_runs hr').2 _ hsigma).1
  rw [cleanChars, cleanChars, hruns hs, hruns ht, h]

/-- A text without cuts has a slug without hyphens. -/
theorem hyphen_not_mem_cleanChars {s : List Char} (hs : ∀ c ∈ s, isCut c = false)
    (hdotted : '\u0130' ∉ s) : '-' ∉ cleanChars s := by
  have hsep := isSeparator_eq_false_of_mem_lowercase hs hdotted
  by_cases hne : s = []
  · rw [hne]
    exact List.not_mem_nil
  · have hruns : runs (lowercase s) = [lowercase s] :=
      Text.runs_eq_singleton (Text.lowercase_ne_nil hne) hsep
    rw [cleanChars, hruns, join, List.intercalate_singleton]
    intro hmem
    exact absurd (hsep _ hmem) (by rw [isSeparator_hyphen]; decide)

/-! ### Texts in two parts -/

section

variable {c : Char} (halnum : Text.isAlphanumeric c = false)
include halnum

/-- Whatever sigmas look past it, a character that is no letter or digit parts the runs before it
from those after it. -/
theorem map_openSigma_runs_lowercase_append_cons (s t : List Char) :
    (runs (lowercase (s ++ c :: t))).map (List.map openSigma) =
      (runs (lowercase s) ++ runs (lowercase t)).map (List.map openSigma) := by
  have hlower : (lower c).map openSigma = [openSigma c] := by
    rw [Text.lower_eq_self_of_not_isAlphanumeric halnum, List.map_singleton]
  have hsep : isSeparator (openSigma c) := by
    rw [isSeparator_openSigma, isSeparator, halnum]
    rfl
  rw [List.map_append, map_openSigma_runs_lowercase, map_openSigma_runs_lowercase,
    map_openSigma_runs_lowercase, List.flatMap_append, List.flatMap_cons, hlower,
    List.singleton_append]
  exact Text.runs_append_cons _ _ hsep

/-- So its slug is as long as those of both parts with a hyphen between them. -/
theorem length_cleanChars_append_cons {s t : List Char} (hs : cleanChars s ≠ [])
    (ht : cleanChars t ≠ []) :
    (cleanChars (s ++ c :: t)).length = (cleanChars s).length + 1 + (cleanChars t).length := by
  have hruns {u : List Char} (hu : cleanChars u ≠ []) : runs (lowercase u) ≠ [] := by
    intro hnil
    rw [cleanChars, hnil] at hu
    exact hu rfl
  have hhyphen : openSigma '-' = '-' := by decide
  -- The slugs may differ in the forms of small sigmas, which have one length.
  have hparts : (cleanChars (s ++ c :: t)).map openSigma =
      (cleanChars s ++ '-' :: cleanChars t).map openSigma := by
    rw [cleanChars, map_join hhyphen, map_openSigma_runs_lowercase_append_cons halnum,
      ← map_join hhyphen, join_append (hruns hs) (hruns ht), cleanChars, cleanChars]
  have hlength := congrArg List.length hparts
  rw [List.length_map, List.length_map, List.length_append, List.length_cons] at hlength
  omega

/-- A text has another slug than its part before such a character, unless one of the parts has
none. -/
theorem clean_append_ne {a b : String} (ha : clean a ≠ "") (hb : clean b ≠ "") :
    clean (a ++ String.singleton c ++ b) ≠ clean a := by
  have hne {u : String} (hu : clean u ≠ "") : cleanChars u.toList ≠ [] := by
    rwa [ne_eq, ← String.toList_eq_nil_iff, clean, String.toList_ofList] at hu
  have htext : (a ++ String.singleton c ++ b).toList = a.toList ++ c :: b.toList := by
    rw [String.toList_append, String.toList_append, String.toList_singleton, List.append_assoc,
      List.singleton_append]
  intro heq
  rw [clean, clean, htext, String.ofList_inj] at heq
  have hlength := length_cleanChars_append_cons halnum (hne ha) (hne hb)
  rw [heq] at hlength
  omega

end

/-! ### Both ways to a slug -/

/-- **Slugs from runs.** The slug of a text is had by settling the whole text, cutting it and
lowering each run on its own. Settling changes nothing in a text without U+0130 and capital sigmas,
and it makes no difference where there is no U+0130 and every cut is neither cased nor
case-ignorable: then the raw text may be cut. With U+0130 it may not. Texts with the same runs have
the same slug, whatever stands between the runs, but for the forms of small sigmas, and without
capital sigmas there is no such difference. A text without cuts and U+0130 has no hyphen in its
slug. -/
theorem clean_by_runs :
    (∀ s, (clean s).toList = cleanRuns (settle s.toList)) ∧
      (∀ s, '\u0130' ∉ s.toList →
        ('\u03a3' ∉ s.toList ∨ ∀ c ∈ s.toList, isCut c → IsBoundary c) →
          (clean s).toList = cleanRuns s.toList) ∧
      (∀ s, '\u0130' ∈ s.toList → (clean s).toList ≠ cleanRuns s.toList) ∧
      (∀ s t, rawRuns s.toList = rawRuns t.toList →
        (clean s).toList.map openSigma = (clean t).toList.map openSigma ∧
          ('\u03a3' ∉ s.toList → clean s = clean t)) ∧
      ∀ s, '\u0130' ∉ s.toList → (∀ c ∈ s.toList, isCut c = false) → '-' ∉ (clean s).toList := by
  simp only [clean, String.toList_ofList]
  refine ⟨fun s => cleanChars_eq_cleanRuns_settle _, fun s => cleanChars_eq_cleanRuns,
    fun s => cleanChars_ne_cleanRuns, fun s t h => ⟨map_openSigma_cleanChars_eq h, fun hs => ?_⟩,
    fun s hdotted hs => hyphen_not_mem_cleanChars hs hdotted⟩
  rw [cleanChars_eq_of_rawRuns_eq h hs]

/-- Two runs with a sigma at the end of each, a text with U+0130, two texts with the same runs, and
a text without cuts. -/
theorem clean_by_runs_of_sigmas :
    '\u0130' ∉ "ΟΔΟΣ/ΟΔΟΣ".toList ∧
      (∀ c ∈ "ΟΔΟΣ/ΟΔΟΣ".toList, isCut c → IsBoundary c) ∧
      (clean "ΟΔΟΣ/ΟΔΟΣ").toList = cleanRuns "ΟΔΟΣ/ΟΔΟΣ".toList ∧
      '\u0130' ∈ "İx".toList ∧ (clean "İx").toList ≠ cleanRuns "İx".toList ∧
      rawRuns "Ab: 1".toList = rawRuns "-Ab/1".toList ∧ clean "Ab: 1" = clean "-Ab/1" ∧
      (∀ c ∈ "Straße".toList, isCut c = false) ∧ '-' ∉ (clean "Straße").toList := by
  obtain ⟨-, hagree, hdiffer, hsame, hhyphen⟩ := clean_by_runs
  have hdotted : '\u0130' ∉ "ΟΔΟΣ/ΟΔΟΣ".toList := by decide +kernel
  have hcut : ∀ c ∈ "ΟΔΟΣ/ΟΔΟΣ".toList, isCut c → IsBoundary c := by
    have hall : "ΟΔΟΣ/ΟΔΟΣ".toList.all fun c =>
        !isCut c || !Text.isCased c && !Text.isCaseIgnorable c := by decide +kernel
    intro c hc hcut
    have hone := List.all_eq_true.mp hall c hc
    rw [hcut, Bool.not_true, Bool.false_or, Bool.and_eq_true] at hone
    exact ⟨by simpa using hone.1, by simpa using hone.2⟩
  have hmem : '\u0130' ∈ "İx".toList := by decide +kernel
  have hruns : rawRuns "Ab: 1".toList = rawRuns "-Ab/1".toList := by decide +kernel
  have hnot := forall_isCut_eq_false (s := "Straße".toList) (by decide +kernel)
  exact ⟨hdotted, hcut, hagree _ hdotted (.inr hcut), hmem, hdiffer _ hmem, hruns,
    (hsame _ _ hruns).2 (by decide +kernel), hnot, hhyphen _ (by decide +kernel) hnot⟩

/-- A text without a cut whose slug has a hyphen, and two texts with the same runs but other slugs:
a sigma looks past the apostrophe, and not past the blank. Cut first, a slug would have a character
that is no letter or digit, and cleaning it again would change it. -/
theorem clean_splits_and_looks_past_runs :
    (∀ c ∈ "İx".toList, isCut c = false) ∧ clean "İx" = "i-x" ∧
      String.ofList (cleanRuns "İx".toList) = "i\u0307x" ∧
      cleanRuns (cleanRuns "İx".toList) ≠ cleanRuns "İx".toList ∧
      rawRuns "aΣ'b".toList = rawRuns "aΣ b".toList ∧ clean "aΣ'b" = "aσ-b" ∧
      clean "aΣ b" = "aς-b" ∧ String.ofList (cleanRuns "aΣ'b".toList) = "aς-b" ∧
      ¬ ∀ s, (clean s).toList = cleanRuns s.toList := by
  have hmark : '\u0307' ∉ (clean "İx").toList ∧ '\u0307' ∈ cleanRuns "İx".toList := by
    decide +kernel
  refine ⟨forall_isCut_eq_false (by decide +kernel), by decide +kernel, by decide +kernel,
    by decide +kernel, by decide +kernel, by decide +kernel, by decide +kernel, by decide +kernel,
    fun h => ?_⟩
  rw [h] at hmark
  exact hmark.1 hmark.2

end DocSite.Slug
