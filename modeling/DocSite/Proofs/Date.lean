import DocSite.Date.Reader
import DocSite.Proofs.Text.Digit
import Mathlib.Data.Nat.Digits.Defs

/-!
# Written dates are read back

`Date.text` writes a year in four digits, or with a sign and at least four of them, and a month and
a day in two. Each field is read up to the mark after it (`yearField_yearText`,
`smallField_padded`), and the whole is the same date again (`ofJsonText?_text`).
-/

namespace DocSite

/-- The months that have days are those from 1 to 12, and they have at most 31. -/
theorem daysInMonth_pos {y : Int} {m : ℕ} (h : 0 < daysInMonth y m) :
    m ≤ 12 ∧ daysInMonth y m ≤ 31 := by
  unfold daysInMonth at h ⊢
  split_ifs at h ⊢ <;> omega

theorem IsCalendarDay.month_le {y : Int} {m d : ℕ} (h : IsCalendarDay y m d) : m ≤ 12 :=
  (daysInMonth_pos (h.2.1.trans h.2.2)).1

theorem IsCalendarDay.day_le {y : Int} {m d : ℕ} (h : IsCalendarDay y m d) : d ≤ 31 :=
  h.2.2.trans (daysInMonth_pos (h.2.1.trans h.2.2)).2

namespace Date

open Text

/-! ### Padded numbers -/

theorem isDigit_of_mem_padded {width n : ℕ} {c : Char} (hc : c ∈ padded width n) : c.isDigit := by
  rcases List.mem_append.mp hc with hzero | hdigit
  · rw [List.eq_of_mem_replicate hzero]
    rfl
  · exact isDigit_of_mem_toString hdigit

theorem numberOf_padded (width n : ℕ) : numberOf 10 (padded width n) = n :=
  numberOf_replicate_append_toString _ n

theorem length_padded {width n : ℕ} :
    (padded width n).length = max width (toString n).toList.length := by
  rw [padded, List.length_append, List.length_replicate]
  omega

theorem length_padded_pos (width n : ℕ) : 1 ≤ (padded width n).length := by
  have hpos : 0 < (toString n).toList.length := List.length_pos_of_ne_nil (toString_ne_nil n)
  rw [length_padded]
  omega

theorem length_padded_of_lt {width n : ℕ} (hwidth : 0 < width) (h : n < 10 ^ width) :
    (padded width n).length = width := by
  have hlength : (toString n).toList.length ≤ width := by
    rw [toList_toString]
    exact Nat.toDigits_length 10 n width hwidth h
  rw [length_padded]
  omega

/-! ### Steps of the reader -/

theorem isBlank_of_isDigit {c : Char} (h : c.isDigit) : isBlank c = false := by
  have hrange : 48 ≤ c.toNat ∧ c.toNat ≤ 57 := by
    simpa [Char.isDigit, UInt32.le_iff_toNat_le] using h
  simp only [isBlank, inRanges, whiteSpace, List.any_cons, List.any_nil, Bool.or_false,
    Bool.or_eq_false_iff, Bool.and_eq_false_iff, decide_eq_false_iff_not]
  omega

theorem trimStart_cons {c : Char} (h : isBlank c = false) (s : List Char) :
    trimStart (c :: s) = c :: s :=
  List.dropWhile_cons_of_neg (ne_true_of_eq_false h)

/-- Digits are read up to the next mark, if a field may have so many. -/
theorem number_append {least most : ℕ} {ds rest : List Char} (hds : ∀ c ∈ ds, c.isDigit)
    (hleast : least ≤ ds.length) (hmost : ds.length ≤ most)
    (hrest : ∀ c ∈ rest.head?, ¬ c.isDigit) :
    number least most (ds ++ rest) = some (numberOf 10 ds, rest) := by
  have hhead : ∀ c ∈ (rest.take (most - ds.length)).head?, ¬ c.isDigit := by
    intro c hc
    rw [List.head?_take] at hc
    split at hc
    · cases hc
    · exact hrest c hc
  have htake : ((ds ++ rest).take most).takeWhile Char.isDigit = ds := by
    rw [List.take_append, List.take_of_length_le hmost]
    exact takeWhile_append_of_head? hds hhead
  simp only [number, htake, if_neg (Nat.not_lt.mpr hleast), List.drop_left]

theorem number_padded {least most width n : ℕ} {rest : List Char} (hleast : least ≤ 1)
    (hmost : (padded width n).length ≤ most) (hrest : ∀ c ∈ rest.head?, ¬ c.isDigit) :
    number least most (padded width n ++ rest) = some (n, rest) := by
  have hnumber := number_append (fun _ => isDigit_of_mem_padded)
    (hleast.trans (length_padded_pos width n)) hmost hrest
  rwa [numberOf_padded] at hnumber

/-- A field that may have any number of digits. -/
theorem number_padded_all (width n : ℕ) {rest : List Char} (hrest : ∀ c ∈ rest.head?, ¬ c.isDigit) :
    number 1 (padded width n ++ rest).length (padded width n ++ rest) = some (n, rest) := by
  have hmost : (padded width n).length ≤ (padded width n ++ rest).length := by
    rw [List.length_append]
    omega
  exact number_padded (Nat.le_refl 1) hmost hrest

/-- A padded number starts with a digit, so that no blank or sign is taken from it. -/
theorem exists_padded_append (width n : ℕ) (rest : List Char) :
    ∃ c s, padded width n ++ rest = c :: s ∧ c.isDigit := by
  obtain ⟨c, s, hs⟩ := List.exists_cons_of_length_pos (length_padded_pos width n)
  have hc : c ∈ padded width n := by
    rw [hs]
    exact List.mem_cons_self
  exact ⟨c, s ++ rest, by rw [hs, List.cons_append], isDigit_of_mem_padded hc⟩

theorem smallField_cons {c : Char} (hc : c.isDigit) (s : List Char) :
    smallField (c :: s) = number 1 2 (c :: s) := by
  rw [smallField, trimStart_cons (isBlank_of_isDigit hc)]

theorem smallField_padded {n : ℕ} {rest : List Char} (hn : n < 100)
    (hrest : ∀ c ∈ rest.head?, ¬ c.isDigit) :
    smallField (padded 2 n ++ rest) = some (n, rest) := by
  have hlength : (padded 2 n).length = 2 := length_padded_of_lt (by decide) hn
  have hnumber := number_padded (Nat.le_refl 1) (Nat.le_of_eq hlength) hrest
  obtain ⟨c, s, hs, hc⟩ := exists_padded_append 2 n rest
  rw [hs] at hnumber ⊢
  rw [smallField_cons hc, hnumber]

/-- A year that starts with a digit has no sign. -/
theorem yearField_cons {c : Char} (hc : c.isDigit) (s : List Char) :
    yearField (c :: s) = (number 1 4 (c :: s)).map fun (n, rest) => ((n : Int), rest) := by
  rw [yearField, trimStart_cons (isBlank_of_isDigit hc)]
  split
  · rename_i hminus
    rw [(List.cons.inj hminus).1] at hc
    exact absurd hc (by decide)
  · rename_i hplus
    rw [(List.cons.inj hplus).1] at hc
    exact absurd hc (by decide)
  · rfl

theorem yearField_yearText (y : Int) {rest : List Char} (hrest : ∀ c ∈ rest.head?, ¬ c.isDigit) :
    yearField (yearText y ++ rest) = some (y, rest) := by
  rw [yearText]
  split_ifs with hplain hneg
  · -- Four digits without a sign.
    have hlength : (padded 4 y.toNat).length = 4 :=
      length_padded_of_lt (by decide) (by omega)
    have hnumber := number_padded (Nat.le_refl 1) (Nat.le_of_eq hlength) hrest
    have hcast : (y.toNat : Int) = y := Int.toNat_of_nonneg hplain.1
    obtain ⟨c, s, hs, hc⟩ := exists_padded_append 4 y.toNat rest
    rw [hs] at hnumber ⊢
    rw [yearField_cons hc, hnumber, Option.map_some]
    simp only [hcast]
  · -- A minus and all digits after it.
    have hcast : -(y.natAbs : Int) = y := by omega
    rw [List.cons_append, yearField, trimStart_cons (by decide)]
    simp only [number_padded_all 4 y.natAbs hrest, Option.map_some, hcast]
  · -- A plus and all digits after it.
    have hcast : (y.natAbs : Int) = y := by omega
    rw [List.cons_append, yearField, trimStart_cons (by decide)]
    simp only [number_padded_all 4 y.natAbs hrest, Option.map_some, hcast]

/-! ### Whole dates -/

theorem month_lt (a : Date) : a.month < 100 :=
  Nat.lt_of_le_of_lt a.isCalendarDay.month_le (by decide)

theorem day_lt (a : Date) : a.day < 100 :=
  Nat.lt_of_le_of_lt a.isCalendarDay.day_le (by decide)

@[simp]
theorem mark_cons_self (c : Char) (s : List Char) : mark c (c :: s) = some s :=
  if_pos rfl

/-- The end of a text ends a number. -/
theorem head?_nil : ∀ c ∈ ([] : List Char).head?, ¬ c.isDigit :=
  fun c hc => absurd hc (Option.not_mem_none c)

/-- A hyphen and a colon end a number. -/
theorem head?_mark {mark : Char} (h : mark = '-' ∨ mark = ':') (s : List Char) :
    ∀ c ∈ (mark :: s).head?, ¬ c.isDigit := by
  rintro c ⟨⟩
  rcases h with rfl | rfl <;> decide

/-- A written date is read back. -/
theorem ofJsonText?_text (a : Date) : ofJsonText? a.text = some a := by
  have hhyphen {s : List Char} : ∀ c ∈ ('-' :: s).head?, ¬ c.isDigit := head?_mark (.inl rfl) s
  have hdayField : smallField (padded 2 a.day) = some (a.day, []) := by
    rw [← List.append_nil (padded 2 a.day)]
    exact smallField_padded a.day_lt head?_nil
  have hof : of? a.year a.month a.day = some a := dif_pos a.isCalendarDay
  rw [ofJsonText?, text, String.toList_ofList, looseLayout, List.append_assoc]
  simp only [List.cons_append, yearField_yearText a.year hhyphen, Option.bind_eq_bind,
    Option.bind_some, trimStart_cons (c := '-') (by decide), mark_cons_self,
    smallField_padded a.month_lt hhyphen, hdayField]
  exact hof

end Date

end DocSite
