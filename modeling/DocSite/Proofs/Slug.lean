import DocSite.Proofs.Text.Lowercase
import DocSite.Proofs.Text.Runs
import DocSite.Slug

/-!
# The grammar of slugs

A kebab-case text is empty or consists of runs that are joined by single hyphens. The characters of
a run are letters and digits of any script, none of them uppercase and all of them lowered.

* `isKebab_cleanChars`: cleaning gives a kebab-case text.
* `cleanChars_eq_self`: a kebab-case text is clean already. So cleaning twice is cleaning once
  (`clean_clean`).
* `isKebab_iff`: a kebab-case text that is not empty is a kebab-case name, which is built from its
  runs one by one (`IsKebabName`).
* `clean_retraction` puts these together: the texts that cleaning leaves as they are, and the texts
  that it gives, are those of the grammar.
-/

namespace DocSite.Slug

open Text (IsLowered lowercase)

/-- A run of a kebab-case text. -/
structure IsRun (r : List Char) : Prop where
  ne_nil : r ≠ []
  isSeparator_eq_false : ∀ c ∈ r, isSeparator c = false
  isLowered : ∀ c ∈ r, IsLowered c

/-- Runs that are joined by single hyphens, or nothing. -/
def IsKebab (t : List Char) : Prop :=
  ∃ rs : List (List Char), (∀ r ∈ rs, IsRun r) ∧ t = join rs

theorem isSeparator_hyphen : isSeparator '-' := by
  decide +kernel

theorem isLowered_hyphen : IsLowered '-' := by
  decide

/-- The runs of a lowercase text are runs of slugs. -/
theorem isRun_of_mem_runs_lowercase {r s : List Char} (h : r ∈ runs (lowercase s)) : IsRun r := by
  obtain ⟨hne, hr⟩ := Text.forall_of_mem_runs h
  exact ⟨hne, fun c hc => (hr c hc).2, fun c hc => Text.isLowered_of_mem_lowercase (hr c hc).1⟩

/-- A cleaned text is in kebab case. -/
theorem isKebab_cleanChars (s : List Char) : IsKebab (cleanChars s) :=
  ⟨runs (lowercase s), fun _ => isRun_of_mem_runs_lowercase, rfl⟩

theorem mem_join {rs : List (List Char)} {c : Char} (h : c ∈ join rs) :
    c = '-' ∨ ∃ r ∈ rs, c ∈ r := by
  induction rs with
  | nil => exact absurd h List.not_mem_nil
  | cons r rs ih =>
    cases rs with
    | nil =>
      rw [join, List.intercalate_singleton] at h
      exact .inr ⟨r, List.mem_cons_self, h⟩
    | cons q qs =>
      rw [join, List.intercalate_cons_cons, List.append_assoc, List.singleton_append] at h
      rcases List.mem_append.mp h with h | h
      · exact .inr ⟨r, List.mem_cons_self, h⟩
      · rcases List.mem_cons.mp h with h | h
        · exact .inl h
        · exact (ih h).imp_right fun ⟨p, hp, hc⟩ => ⟨p, List.mem_cons_of_mem _ hp, hc⟩

theorem IsKebab.isLowered {t : List Char} (h : IsKebab t) : ∀ c ∈ t, IsLowered c := by
  obtain ⟨rs, hrs, rfl⟩ := h
  intro c hc
  rcases mem_join hc with rfl | ⟨r, hr, hc⟩
  · exact isLowered_hyphen
  · exact (hrs r hr).isLowered c hc

/-- A text in kebab case is clean already. -/
theorem cleanChars_eq_self {t : List Char} (h : IsKebab t) : cleanChars t = t := by
  have hlower : lowercase t = t := Text.lowercase_eq_self h.isLowered
  obtain ⟨rs, hrs, rfl⟩ := h
  have hruns : runs (join rs) = rs := Text.runs_intercalate isSeparator_hyphen
    fun r hr => ⟨(hrs r hr).ne_nil, (hrs r hr).isSeparator_eq_false⟩
  rw [cleanChars, hlower, hruns]

/-- Cleaning a slug changes nothing. -/
theorem clean_clean (raw : String) : clean (clean raw) = clean raw := by
  rw [clean, clean, String.toList_ofList, cleanChars_eq_self (isKebab_cleanChars raw.toList)]

/-! ### Names -/

/-- A character of a name's runs: a letter or a digit of any script that is not uppercase and that
lowering leaves as it is. -/
structure IsNameChar (c : Char) : Prop where
  isAlphanumeric : Text.isAlphanumeric c
  isUppercase_eq_false : Text.isUppercase c = false
  isLowered : IsLowered c

/-- A kebab-case name: a run, or a run and another name with a hyphen between them. -/
inductive IsKebabName : List Char → Prop
  | run {r : List Char} (ne_nil : r ≠ []) (chars : ∀ c ∈ r, IsNameChar c) : IsKebabName r
  | cons {r t : List Char} (ne_nil : r ≠ []) (chars : ∀ c ∈ r, IsNameChar c)
      (rest : IsKebabName t) : IsKebabName (r ++ '-' :: t)

theorem isSeparator_eq_false_iff {c : Char} :
    isSeparator c = false ↔ Text.isAlphanumeric c ∧ Text.isUppercase c = false := by
  simp [isSeparator]

theorem IsRun.isNameChar {r : List Char} (h : IsRun r) : ∀ c ∈ r, IsNameChar c := by
  intro c hc
  obtain ⟨halnum, hupper⟩ := isSeparator_eq_false_iff.mp (h.isSeparator_eq_false c hc)
  exact ⟨halnum, hupper, h.isLowered c hc⟩

theorem isRun_of_isNameChar {r : List Char} (hne : r ≠ []) (h : ∀ c ∈ r, IsNameChar c) :
    IsRun r where
  ne_nil := hne
  isSeparator_eq_false c hc :=
    isSeparator_eq_false_iff.mpr ⟨(h c hc).isAlphanumeric, (h c hc).isUppercase_eq_false⟩
  isLowered c hc := (h c hc).isLowered

theorem join_cons {r : List Char} {rs : List (List Char)} (h : rs ≠ []) :
    join (r :: rs) = r ++ '-' :: join rs := by
  obtain ⟨q, qs, rfl⟩ := List.exists_cons_of_ne_nil h
  rw [join, List.intercalate_cons_cons, List.append_assoc, List.singleton_append, ← join]

theorem mem_join_of_mem {rs : List (List Char)} {r : List Char} (hr : r ∈ rs) {c : Char}
    (hc : c ∈ r) : c ∈ join rs := by
  induction rs with
  | nil => exact absurd hr List.not_mem_nil
  | cons q rs ih =>
    by_cases hlast : rs = []
    · subst hlast
      rw [join, List.intercalate_singleton]
      exact List.mem_singleton.mp hr ▸ hc
    · rw [join_cons hlast]
      rcases List.mem_cons.mp hr with rfl | hr
      · exact List.mem_append_left _ hc
      · exact List.mem_append_right _ (List.mem_cons_of_mem _ (ih hr))

/-- Joining runs gives nothing only if there are none. -/
theorem join_eq_nil_iff {rs : List (List Char)} (h : ∀ r ∈ rs, r ≠ []) :
    join rs = [] ↔ rs = [] := by
  constructor
  · intro hjoin
    by_contra hne
    obtain ⟨r, hr⟩ := List.exists_mem_of_ne_nil _ hne
    obtain ⟨c, hc⟩ := List.exists_mem_of_ne_nil _ (h r hr)
    have hmem := mem_join_of_mem hr hc
    rw [hjoin] at hmem
    exact absurd hmem List.not_mem_nil
  · rintro rfl
    rfl

theorem isKebabName_join {rs : List (List Char)} (hne : rs ≠ []) (h : ∀ r ∈ rs, IsRun r) :
    IsKebabName (join rs) := by
  induction rs with
  | nil => exact absurd rfl hne
  | cons r rs ih =>
    obtain ⟨hr, hrs⟩ := List.forall_mem_cons.mp h
    -- The last run is a name by itself, each one before it is followed by a hyphen.
    by_cases hlast : rs = []
    · subst hlast
      rw [join, List.intercalate_singleton]
      exact .run hr.ne_nil hr.isNameChar
    · rw [join_cons hlast]
      exact .cons hr.ne_nil hr.isNameChar (ih hlast hrs)

/-- A name is joined from its runs, of which it has at least one. -/
theorem IsKebabName.exists_join {t : List Char} (h : IsKebabName t) :
    ∃ rs : List (List Char), rs ≠ [] ∧ (∀ r ∈ rs, IsRun r) ∧ t = join rs := by
  induction h with
  | @run r ne_nil chars =>
    refine ⟨[r], List.cons_ne_nil _ _, ?_, ?_⟩
    · exact List.forall_mem_singleton.mpr (isRun_of_isNameChar ne_nil chars)
    · rw [join, List.intercalate_singleton]
  | @cons r t ne_nil chars _ ih =>
    obtain ⟨rs, hne, hrs, rfl⟩ := ih
    refine ⟨r :: rs, List.cons_ne_nil _ _, ?_, (join_cons hne).symm⟩
    exact List.forall_mem_cons.mpr ⟨isRun_of_isNameChar ne_nil chars, hrs⟩

theorem isKebab_iff {t : List Char} : IsKebab t ↔ t = [] ∨ IsKebabName t := by
  constructor
  · rintro ⟨rs, hrs, rfl⟩
    by_cases hne : rs = []
    · subst hne
      exact .inl rfl
    · exact .inr (isKebabName_join hne hrs)
  · rintro (rfl | h)
    · exact ⟨[], List.forall_mem_nil _, rfl⟩
    · obtain ⟨rs, -, hrs, ht⟩ := h.exists_join
      exact ⟨rs, hrs, ht⟩

/-- A name has no characters but those of its runs and hyphens. -/
theorem IsKebabName.eq_hyphen_or_isNameChar {t : List Char} (h : IsKebabName t) :
    ∀ c ∈ t, c = '-' ∨ IsNameChar c := by
  induction h with
  | run _ chars => exact fun c hc => .inr (chars c hc)
  | cons _ chars _ ih =>
    intro c hc
    rcases List.mem_append.mp hc with hc | hc
    · exact .inr (chars c hc)
    · rcases List.mem_cons.mp hc with rfl | hc
      · exact .inl rfl
      · exact ih c hc

theorem IsKebabName.exists_isNameChar {t : List Char} (h : IsKebabName t) :
    ∃ c ∈ t, IsNameChar c := by
  cases h with
  | run ne_nil chars =>
    obtain ⟨c, hc⟩ := List.exists_mem_of_ne_nil _ ne_nil
    exact ⟨c, hc, chars c hc⟩
  | cons ne_nil chars =>
    obtain ⟨c, hc⟩ := List.exists_mem_of_ne_nil _ ne_nil
    exact ⟨c, List.mem_append_left _ hc, chars c hc⟩

/-- A text cleans to nothing if its lowercase has no letter or digit but uppercase ones. -/
theorem clean_eq_empty_iff {s : String} :
    clean s = "" ↔
      ∀ c ∈ lowercase s.toList, Text.isAlphanumeric c = false ∨ Text.isUppercase c := by
  have hjoin : join (runs (lowercase s.toList)) = [] ↔ runs (lowercase s.toList) = [] :=
    join_eq_nil_iff fun _ hr => (isRun_of_mem_runs_lowercase hr).ne_nil
  have hruns : runs (lowercase s.toList) = [] ↔ ∀ c ∈ lowercase s.toList, isSeparator c :=
    Text.runs_eq_nil_iff
  rw [← String.toList_eq_nil_iff, clean, String.toList_ofList, cleanChars, hjoin, hruns]
  simp [isSeparator]

/-- What a text cleans to is nothing or a name. -/
theorem clean_eq_empty_or_isKebabName (s : String) :
    clean s = "" ∨ IsKebabName (clean s).toList := by
  rw [← String.toList_eq_nil_iff, ← isKebab_iff, clean, String.toList_ofList]
  exact isKebab_cleanChars s.toList

theorem clean_eq_self {t : String} (h : t = "" ∨ IsKebabName t.toList) : clean t = t := by
  rw [← String.toList_eq_nil_iff, ← isKebab_iff] at h
  rw [clean, cleanChars_eq_self h, String.ofList_toList]

/-- **Cleaning is a retraction onto the kebab-case grammar.** What a text cleans to is empty or a
name; cleaning leaves exactly the empty text and the names as they are. So cleaning again changes
nothing, and the empty text and the names are all that cleaning gives. -/
theorem clean_retraction :
    (∀ s, clean s = "" ∨ IsKebabName (clean s).toList) ∧
      (∀ t, clean t = t ↔ t = "" ∨ IsKebabName t.toList) ∧
      (∀ s, clean (clean s) = clean s) ∧
      ∀ t, (∃ s, clean s = t) ↔ t = "" ∨ IsKebabName t.toList := by
  refine ⟨clean_eq_empty_or_isKebabName, fun t => ⟨fun h => ?_, clean_eq_self⟩, clean_clean,
    fun t => ⟨?_, fun h => ⟨t, clean_eq_self h⟩⟩⟩
  · rw [← h]
    exact clean_eq_empty_or_isKebabName t
  · rintro ⟨s, rfl⟩
    exact clean_eq_empty_or_isKebabName s

/-- A final sigma, a capital letter that is lowered to two characters and one without a
lowercase. -/
example : clean "ΟΔΟΣ İx/𝐀" = "οδος-i-x" := by decide +kernel

end DocSite.Slug
