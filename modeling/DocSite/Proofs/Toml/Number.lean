import DocSite.Proofs.Text.Digit
import DocSite.Toml.Number

/-!
# Counts in TOML

The digits of a number below `2 ^ 63` at the end of a line are read as this number
(`number?_toString`): they are no date or time, having no hyphen or colon, and no floating-point
number, having no point and no exponent.
-/

namespace DocSite.Toml

/-- A digit without an underscore after it. -/
theorem digits?_cons {p : Char → Bool} {c : Char} {s : List Char} (hc : p c)
    (hs : s.head? ≠ some '_') :
    digits? p (c :: s) =
      match digits? p s with
      | some (ds, rest) => some (c :: ds, rest)
      | none => if s.head?.any p then none else some ([c], s) := by
  have hunderscore : ∀ t, s = '_' :: t → False := by
    rintro t rfl
    exact hs rfl
  rw [digits?.eq_3 p c s hunderscore, hc]
  rfl

/-- Digits up to something that does not prolong them. -/
theorem digits?_append {p : Char → Bool} {ds rest : List Char} (hne : ds ≠ [])
    (hds : ∀ c ∈ ds, p c) (hunderscore : p '_' = false)
    (hrest : ∀ c ∈ rest.head?, p c = false ∧ c ≠ '_') :
    digits? p (ds ++ rest) = some (ds, rest) := by
  induction ds with
  | nil => exact absurd rfl hne
  | cons d ds ih =>
    obtain ⟨hd, hds⟩ := List.forall_mem_cons.mp hds
    cases ds with
    | nil =>
      cases rest with
      | nil => rw [List.append_nil, digits?_cons hd (by decide)]; rfl
      | cons c rest =>
        obtain ⟨hc, hne⟩ := hrest c rfl
        have hnone : digits? p (c :: rest) = none := by
          rw [digits?.eq_def]
          simp [hc]
        have hhead : (c :: rest).head? ≠ some '_' := fun h => hne (Option.some.inj h)
        rw [List.singleton_append, digits?_cons hd hhead, hnone]
        simp [hc]
    | cons e ds =>
      have he : (e :: ds ++ rest).head? ≠ some '_' := by
        intro h
        obtain rfl : e = '_' := Option.some.inj h
        rw [hds '_' List.mem_cons_self] at hunderscore
        cases hunderscore
      rw [List.cons_append, digits?_cons hd he, ih (List.cons_ne_nil e ds) hds]

/-! ### The end of a line after digits -/

section Line

variable {ds rest : List Char} (hds : ∀ c ∈ ds, c.isDigit)
include hds

/-- What follows a field of digits is more digits and the end of the line. -/
theorem exists_of_field? {n least most v : ℕ} {s : List Char}
    (h : field? n least most (ds ++ '\n' :: rest) = some (v, s)) :
    ∃ ds', (∀ c ∈ ds', c.isDigit) ∧ s = ds' ++ '\n' :: rest := by
  simp only [field?] at h
  split_ifs at h with hfield
  obtain ⟨-, rfl⟩ := Prod.mk.inj (Option.some.inj h)
  have hlength : n ≤ ds.length := by
    by_contra hlt
    -- The line end would be among the digits.
    have hmem : '\n' ∈ (ds ++ '\n' :: rest).take n := by
      obtain ⟨k, hk⟩ : ∃ k, n - ds.length = k + 1 :=
        Nat.exists_eq_add_one_of_ne_zero (by omega)
      rw [List.take_append, hk]
      exact List.mem_append_right _ List.mem_cons_self
    exact absurd (List.all_eq_true.mp hfield.2.1 _ hmem) (by decide)
  refine ⟨ds.drop n, fun c hc => hds c (List.mem_of_mem_drop hc), ?_⟩
  rw [List.drop_append_of_le_length hlength]

theorem mark?_eq_none {c : Char} (hdigit : c.isDigit = false) (hline : c ≠ '\n') :
    mark? c (ds ++ '\n' :: rest) = none := by
  cases ds with
  | nil => exact if_neg (Ne.symm hline)
  | cons d ds =>
    have hd : d ≠ c := by
      rintro rfl
      rw [hds d List.mem_cons_self] at hdigit
      cases hdigit
    exact if_neg hd

theorem time?_eq_none : time? (ds ++ '\n' :: rest) = none := by
  have hdate : afterDate? (ds ++ '\n' :: rest) = none := by
    rw [afterDate?]
    cases hfield : field? 4 0 9999 (ds ++ '\n' :: rest) with
    | none => rfl
    | some r =>
      obtain ⟨year, s⟩ := r
      obtain ⟨ds', hds', rfl⟩ := exists_of_field? hds hfield
      simp [mark?_eq_none hds' (c := '-') rfl (by decide)]
  have htime : afterTimeOfDay? (ds ++ '\n' :: rest) = none := by
    rw [afterTimeOfDay?]
    cases hfield : field? 2 0 23 (ds ++ '\n' :: rest) with
    | none => rfl
    | some r =>
      obtain ⟨hour, s⟩ := r
      obtain ⟨ds', hds', rfl⟩ := exists_of_field? hds hfield
      simp [mark?_eq_none hds' (c := ':') rfl (by decide)]
  simp [time?, hdate, htime]

end Line

/-! ### Counts -/

theorem decimalDigits?_toString (n : ℕ) (rest : List Char) :
    decimalDigits? ((toString n).toList ++ '\n' :: rest) =
      some ((toString n).toList, '\n' :: rest) := by
  have hline : ∀ c ∈ ('\n' :: rest).head?, c.isDigit = false ∧ c ≠ '_' := by
    rintro c ⟨⟩
    decide
  have hread := digits?_append (Text.toString_ne_nil n)
    (fun c => Text.isDigit_of_mem_toString) rfl hline
  rcases Nat.eq_zero_or_pos n with rfl | hpos
  · rfl
  · obtain ⟨c, ds, hds⟩ := List.exists_cons_of_ne_nil (Text.toString_ne_nil n)
    have hc : c ≠ '0' := by
      rintro rfl
      exact absurd (Text.head?_toString (by rw [hds]; rfl)) (Nat.ne_of_gt hpos)
    rw [hds] at hread ⊢
    rw [List.cons_append, decimalDigits?.eq_2 _ fun _ h => hc (List.cons.inj h).1]
    exact hread

/-- What starts with a digit has no sign and is none of the words for special numbers. -/
theorem sign_cons {c : Char} (h : c.isDigit) (s : List Char) : sign (c :: s) = (false, c :: s) := by
  refine sign.eq_3 (c :: s) (fun _ hs => ?_) fun _ hs => ?_
  · rw [(List.cons.inj hs).1] at h
    exact absurd h (by decide)
  · rw [(List.cons.inj hs).1] at h
    exact absurd h (by decide)

theorem word?_eq_none {c : Char} (h : c.isDigit) {w : String} {first : Char} {ws : List Char}
    (hw : w.toList = first :: ws) (hfirst : first.isDigit = false) (s : List Char) :
    word? w (c :: s) = none := by
  have hne : first ≠ c := by
    rintro rfl
    rw [h] at hfirst
    cases hfirst
  simp [word?, hw, hne]

variable (n : ℕ) (rest : List Char)

theorem float?_toString : float? ((toString n).toList ++ '\n' :: rest) = none := by
  have hread := decimalDigits?_toString n rest
  obtain ⟨c, ds, hds⟩ := List.exists_cons_of_ne_nil (Text.toString_ne_nil n)
  have hc : c.isDigit := Text.isDigit_of_mem_toString (by rw [hds]; exact List.mem_cons_self)
  rw [hds, List.cons_append] at hread ⊢
  simp [float?, sign_cons hc, word?_eq_none hc (w := "inf") rfl rfl,
    word?_eq_none hc (w := "nan") rfl rfl, hread, fraction?, exponent?]

theorem isWord_natCast {n : ℕ} : isWord n ↔ n < Nat.pow 2 63 := by
  rw [isWord]
  generalize Nat.pow 2 63 = bound
  simp only [Bool.and_eq_true, decide_eq_true_eq]
  omega

theorem integer?_toString {n : ℕ} (hn : n < Nat.pow 2 63) :
    integer? ((toString n).toList ++ '\n' :: rest) = some ((n : Int), '\n' :: rest) := by
  have hread := decimalDigits?_toString n rest
  have hword : isWord n := isWord_natCast.mpr hn
  obtain ⟨c, ds, hds⟩ := List.exists_cons_of_ne_nil (Text.toString_ne_nil n)
  have hc : c.isDigit := Text.isDigit_of_mem_toString (by rw [hds]; exact List.mem_cons_self)
  have hsecond : ∀ x t, x.isDigit = false → x ≠ '\n' → ds ++ '\n' :: rest ≠ x :: t := by
    rintro x t hx hline h
    cases ds with
    | nil => exact hline (List.cons.inj h).1.symm
    | cons d ds =>
      have hd : d.isDigit := Text.isDigit_of_mem_toString (by rw [hds]; simp)
      rw [(List.cons.inj h).1, hx] at hd
      cases hd
  have hnumber := Text.numberOf_toString n
  rw [hds] at hread hnumber ⊢
  rw [List.cons_append] at hread ⊢
  rw [integer?.eq_4 _ (fun t h => hsecond 'x' t rfl (by decide) (List.cons.inj h).2)
    (fun t h => hsecond 'o' t rfl (by decide) (List.cons.inj h).2)
    fun t h => hsecond 'b' t rfl (by decide) (List.cons.inj h).2]
  -- Step by step: the bound is too great to be compared by evaluation.
  rw [sign_cons hc]
  dsimp only
  rw [hread, Option.map_some]
  dsimp only
  rw [hnumber, if_neg Bool.false_ne_true, Option.bind_eq_bind, Option.bind_some, if_pos hword]
  rfl

/-- The digits of a count are read as the count. -/
theorem number?_toString {n : ℕ} (hn : n < Nat.pow 2 63) :
    number? ((toString n).toList ++ '\n' :: rest) = some (.integer n, '\n' :: rest) := by
  rw [number?, time?_eq_none fun c => Text.isDigit_of_mem_toString, float?_toString,
    integer?_toString rest hn]
  rfl

end DocSite.Toml
