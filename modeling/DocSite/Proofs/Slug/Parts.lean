import DocSite.Proofs.Slug
import DocSite.Proofs.Text.Sigma

/-!
# Slugs of joined parts

Some separators keep what stands before them apart from what stands after them: those that are
neither cased nor case-ignorable, as blanks, slashes, hyphens and underscores are.

* `runs_lowercase_append_cons`: the runs of the lowercase of a text are those of its parts before
  and after such a separator.
* `join_flatten`: runs that are joined part by part, and then the parts that are not empty, are
  joined.
* `clean_intercalate`: so the slug of parts that are joined by such a separator has a hyphen between
  the slugs of the parts, those that are empty left out.
-/

namespace DocSite.Slug

open Text (IsBoundary lowercase)

/-! ### Joining in two steps -/

theorem join_append {rs qs : List (List Char)} (hrs : rs ≠ []) (hqs : qs ≠ []) :
    join (rs ++ qs) = join rs ++ '-' :: join qs := by
  induction rs with
  | nil => exact absurd rfl hrs
  | cons r rs ih =>
    by_cases hlast : rs = []
    · subst hlast
      rw [List.singleton_append, join_cons hqs, join, join, List.intercalate_singleton]
    · have hne : rs ++ qs ≠ [] := List.append_ne_nil_of_left_ne_nil hlast _
      rw [List.cons_append, join_cons hne, ih hlast, join_cons hlast, List.append_assoc,
        List.cons_append]

/-- Parts that are joined from their runs may be joined to one, but for the empty ones. -/
theorem join_flatten {parts : List (List (List Char))} (h : ∀ rs ∈ parts, ∀ r ∈ rs, r ≠ []) :
    join ((parts.map join).filter (!·.isEmpty)) = join parts.flatten := by
  induction parts with
  | nil => rfl
  | cons rs parts ih =>
    obtain ⟨hrs, hparts⟩ := List.forall_mem_cons.mp h
    have ih := ih hparts
    rw [List.map_cons, List.flatten_cons]
    by_cases hempty : rs = []
    · subst hempty
      exact ih
    · have hkeep : (join rs :: parts.map join).filter (!·.isEmpty) =
          join rs :: (parts.map join).filter (!·.isEmpty) :=
        List.filter_cons_of_pos (by simpa [join_eq_nil_iff hrs] using hempty)
      rw [hkeep]
      -- The other parts give nothing exactly if all of them are without runs.
      have hrest : (parts.map join).filter (!·.isEmpty) = [] ↔ parts.flatten = [] := by
        have hflatten : ∀ r ∈ parts.flatten, r ≠ [] := fun r hr => by
          obtain ⟨qs, hqs, hr⟩ := List.mem_flatten.mp hr
          exact hparts qs hqs r hr
        have hfilter : ∀ r ∈ (parts.map join).filter (!·.isEmpty), r ≠ [] := fun r hr => by
          simpa using (List.mem_filter.mp hr).2
        rw [← join_eq_nil_iff hfilter, ih, join_eq_nil_iff hflatten]
      by_cases hlast : parts.flatten = []
      · rw [hrest.mpr hlast, hlast, List.append_nil, join, List.intercalate_singleton]
      · rw [join_cons (hrest.not.mpr hlast), ih, join_append hempty hlast]

/-! ### Cleaning part by part -/

section

variable {c : Char} (halnum : Text.isAlphanumeric c = false) (hc : IsBoundary c)
include halnum hc

/-- The runs before a separator of this kind and after it are lowered apart from each other. -/
theorem runs_lowercase_append_cons (s t : List Char) :
    runs (lowercase (s ++ c :: t)) = runs (lowercase s) ++ runs (lowercase t) := by
  have hsep : isSeparator c := by simp [isSeparator, halnum]
  rw [Text.lowercase_append_cons hc, Text.lower_eq_self_of_not_isAlphanumeric halnum,
    List.singleton_append]
  exact Text.runs_append_cons _ _ hsep

theorem runs_lowercase_intercalate (parts : List (List Char)) :
    runs (lowercase ([c].intercalate parts)) =
      (parts.map fun part => runs (lowercase part)).flatten := by
  induction parts with
  | nil => rfl
  | cons part parts ih =>
    cases parts with
    | nil =>
      rw [List.intercalate_singleton, List.map_singleton, List.flatten_singleton]
    | cons next rest =>
      rw [List.intercalate_cons_cons, List.append_assoc, List.singleton_append,
        runs_lowercase_append_cons halnum hc, ih]
      rfl

theorem cleanChars_intercalate (parts : List (List Char)) :
    cleanChars ([c].intercalate parts) = join ((parts.map cleanChars).filter (!·.isEmpty)) := by
  have hruns : ∀ rs ∈ parts.map fun part => runs (lowercase part), ∀ r ∈ rs, r ≠ [] := by
    intro rs hrs r hr
    obtain ⟨part, -, rfl⟩ := List.mem_map.mp hrs
    exact (isRun_of_mem_runs_lowercase hr).ne_nil
  rw [cleanChars, runs_lowercase_intercalate halnum hc, ← join_flatten hruns, List.map_map]
  rfl

/-- **The slug of joined parts is joined from their slugs**, where it is not empty. -/
theorem clean_intercalate (parts : List String) :
    clean ((String.singleton c).intercalate parts) =
      "-".intercalate ((parts.map clean).filter (· ≠ "")) := by
  have hclean : cleanChars ∘ String.toList = String.toList ∘ clean := by
    funext part
    simp [clean]
  have hparts : ((parts.map String.toList).map cleanChars).filter (!·.isEmpty) =
      ((parts.map clean).filter (· ≠ "")).map String.toList := by
    rw [List.map_map, hclean, ← List.map_map, List.filter_map]
    refine congrArg (List.map String.toList) (List.filter_congr fun part _ => ?_)
    rw [Bool.eq_iff_iff]
    simp
  have hhyphen : "-".toList = ['-'] := by decide
  rw [← String.toList_inj, clean, String.toList_ofList, String.toList_intercalate,
    String.toList_intercalate, String.toList_singleton, cleanChars_intercalate halnum hc, hparts,
    hhyphen, join]

end

end DocSite.Slug
