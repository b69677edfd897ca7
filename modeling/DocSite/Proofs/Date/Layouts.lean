import DocSite.FrontMatter.Fields
import DocSite.Proofs.Date.Moment
import DocSite.Proofs.Text.Runs

/-!
# Layouts of dates mean the date as written

A date may be written alone, with a time of day, or with a time of day and an offset from universal
time (`IsWritten`).

* `calendarStart_of_layout`: a layout that accepts a text reads the date which stands at its start.
  Two layouts therefore never read different dates from one text, and of the layouts that accept it
  any may be named (`ofChars?_eq_some`).
* `dates_as_written`: every written form of a date is read as that date, whatever blanks are around
  it, also as the date field of front matter.
-/

namespace DocSite.Date

open Text

variable {a b : Date} {s rest : List Char}

/-! ### Every layout reads the date at the start -/

theorem complete_eq_some_iff {fields : Int × ℕ × ℕ} :
    complete fields rest = some a ↔ rest = [] ∧ fields = (a.year, a.month, a.day) := by
  obtain ⟨y, m, d⟩ := fields
  unfold complete
  rw [Prod.mk.injEq, Prod.mk.injEq]
  cases rest with
  | nil =>
    show of? y m d = some a ↔ _
    rw [of?_eq_some_iff, eq_comm, eq_comm (a := m), eq_comm (a := d)]
    exact (and_iff_right rfl).symm
  | cons c rest => simp

/-- What is read with more digits required is read with fewer. -/
theorem number_of_le {least least' most n : ℕ} (hle : least ≤ least')
    (h : number least' most s = some (n, rest)) : number least most s = some (n, rest) := by
  unfold number at h ⊢
  dsimp only at h ⊢
  split_ifs at h with hshort
  rw [if_neg (by omega)]
  exact h

theorem exists_cons_of_number {least most n : ℕ} (hleast : 0 < least)
    (h : number least most s = some (n, rest)) : ∃ c t, s = c :: t ∧ c.isDigit := by
  unfold number at h
  dsimp only at h
  split_ifs at h with hshort
  cases s with
  | nil =>
    simp at hshort
    omega
  | cons c t =>
    refine ⟨c, t, rfl, ?_⟩
    by_contra hc
    cases most with
    | zero =>
      simp at hshort
      omega
    | succ most =>
      simp [hc] at hshort
      omega

theorem smallField_of_number {n : ℕ} (h : number 2 2 s = some (n, rest)) :
    smallField s = some (n, rest) := by
  obtain ⟨c, t, rfl, hc⟩ := exists_cons_of_number (by decide) h
  rw [smallField_cons hc]
  exact number_of_le (by decide) h

theorem yearField_of_number {n : ℕ} (h : number 4 4 s = some (n, rest)) :
    yearField s = some ((n : Int), rest) := by
  obtain ⟨c, t, rfl, hc⟩ := exists_cons_of_number (by decide) h
  rw [yearField_cons hc, number_of_le (by decide) h, Option.map_some]

/-- A date of fixed width is one whose fields are not padded by chance. -/
theorem calendarStart_of_fixedDate {fields : Int × ℕ × ℕ}
    (h : fixedDate s = some (fields, rest)) : calendarStart s = some (fields, rest) := by
  simp only [fixedDate, Option.bind_eq_bind, Option.bind_eq_some_iff] at h
  obtain ⟨⟨y, s₁⟩, hy, s₂, hmark, ⟨m, s₃⟩, hm, s₄, hmark', ⟨d, s₅⟩, hd, heq⟩ := h
  simp only [calendarStart, Option.bind_eq_bind, Option.bind_eq_some_iff]
  exact ⟨_, yearField_of_number hy, s₂, hmark, _, smallField_of_number hm, s₄, hmark', _,
    smallField_of_number hd, heq⟩

theorem calendarStart_of_localLayout {separator : List Char → Option (List Char)}
    (h : localLayout separator s = some a) :
    ∃ rest, calendarStart s = some ((a.year, a.month, a.day), rest) := by
  simp only [localLayout, Option.bind_eq_bind, Option.bind_eq_some_iff] at h
  obtain ⟨⟨fields, s₁⟩, hstart, s₂, -, s₃, -, hcomplete⟩ := h
  obtain ⟨-, rfl⟩ := complete_eq_some_iff.mp hcomplete
  exact ⟨s₁, hstart⟩

/-- The date of a timestamp with an offset is the one at its start, on whatever day its moment of
universal time falls. -/
theorem calendarStart_of_offsetLayout (h : offsetLayout s = some a) :
    ∃ rest, calendarStart s = some ((a.year, a.month, a.day), rest) := by
  simp only [offsetLayout, Option.bind_eq_bind, Option.bind_eq_some_iff] at h
  obtain ⟨⟨day, s₁⟩, hday, s₂, -, ⟨⟨hour, m, sec⟩, s₃⟩, -, ⟨seconds, s₄⟩, -, date, hcomplete, here,
    hhere, universal, huniversal, there, hthere, heq⟩ := h
  obtain ⟨-, hdate, -⟩ := Moment.of?_eq_some_iff.mp hhere
  -- The moment is moved to universal time and back again.
  have hback : there = here := by
    have hundo := Moment.shift?_neg huniversal
    rw [neg_neg, hthere] at hundo
    exact Option.some.inj hundo
  obtain rfl : date = a := by
    rw [← hdate, ← hback]
    exact Option.some.inj heq
  obtain ⟨-, rfl⟩ := complete_eq_some_iff.mp hcomplete
  exact ⟨s₁, calendarStart_of_fixedDate hday⟩

/-- **A layout reads the date that stands at the start of the text.** -/
theorem calendarStart_of_layout {layout : List Char → Option Date} (hlayout : layout ∈ layouts)
    (h : layout s = some a) : ∃ rest, calendarStart s = some ((a.year, a.month, a.day), rest) := by
  simp only [layouts, List.mem_cons, List.not_mem_nil, or_false] at hlayout
  rcases hlayout with rfl | rfl | rfl | rfl
  · simp only [calendarLayout, Option.bind_eq_bind, Option.bind_eq_some_iff] at h
    obtain ⟨⟨fields, s₁⟩, hstart, hcomplete⟩ := h
    obtain ⟨-, rfl⟩ := complete_eq_some_iff.mp hcomplete
    exact ⟨s₁, hstart⟩
  · exact calendarStart_of_offsetLayout h
  · exact calendarStart_of_localLayout h
  · exact calendarStart_of_localLayout h

/-- No two layouts read different dates from one text. -/
theorem eq_of_layouts {layout layout' : List Char → Option Date} (hlayout : layout ∈ layouts)
    (hlayout' : layout' ∈ layouts) (h : layout s = some a) (h' : layout' s = some b) : a = b := by
  obtain ⟨rest, hstart⟩ := calendarStart_of_layout hlayout h
  obtain ⟨rest', hstart'⟩ := calendarStart_of_layout hlayout' h'
  rw [hstart, Option.some.injEq, Prod.mk.injEq, Prod.mk.injEq, Prod.mk.injEq] at hstart'
  obtain ⟨⟨hyear, hmonth, hday⟩, -⟩ := hstart'
  have hof : of? b.year b.month b.day = some a := of?_eq_some_iff.mpr ⟨hyear, hmonth, hday⟩
  rw [of?_eq_some_iff.mpr ⟨rfl, rfl, rfl⟩] at hof
  exact (Option.some.inj hof).symm

/-- What some layout reads is read from the text. -/
theorem ofChars?_eq_some {layout : List Char → Option Date} (hlayout : layout ∈ layouts)
    (h : layout s = some a) : ofChars? s = some a := by
  obtain ⟨b, hb⟩ : ∃ b, ofChars? s = some b := by
    rw [← Option.isSome_iff_exists, ofChars?, List.findSome?_isSome_iff]
    exact ⟨layout, hlayout, by rw [h]; rfl⟩
  obtain ⟨layout', hlayout', hread⟩ := List.exists_of_findSome?_eq_some hb
  rw [hb, eq_of_layouts hlayout hlayout' h hread]

/-! ### Written forms -/

/-- A fraction of a second: nothing, or a point and digits. -/
inductive IsFraction : List Char → Prop
  | whole : IsFraction []
  | point {ds : List Char} (hne : ds ≠ []) (hdigits : ∀ c ∈ ds, c.isDigit) : IsFraction ('.' :: ds)

/-- A time of day in numbers of two digits, and a fraction of its second. -/
def timeText (h m s : ℕ) (fraction : List Char) : List Char :=
  padded 2 h ++ ':' :: (padded 2 m ++ ':' :: (padded 2 s ++ fraction))

/-- An offset of less than a day from universal time, written in hours and minutes, or the mark of
universal time itself. -/
inductive IsZone : List Char → Prop
  | universal {z : Char} (hz : z = 'Z' ∨ z = 'z') : IsZone [z]
  | shifted {sign : Char} {h m : ℕ} (hsign : sign = '+' ∨ sign = '-' ∨ sign = '\u2212')
      (hh : h < 24) (hm : m < 60) : IsZone (sign :: (padded 2 h ++ ':' :: padded 2 m))

/-- The ways to write a date: alone, with a time of day, and, in years of four digits, with a time
of day and an offset. -/
inductive IsWritten (a : Date) : List Char → Prop
  | alone : IsWritten a a.text.toList
  | withTime {sep : Char} {h m s : ℕ} {f : List Char} (hsep : sep = 'T' ∨ sep = ' ')
      (htime : isTime h m s) (hf : IsFraction f) :
      IsWritten a (a.text.toList ++ sep :: timeText h m s f)
  | withOffset {sep : Char} {h m s : ℕ} {f zone : List Char}
      (hsep : sep = 't' ∨ sep = 'T' ∨ sep = ' ') (hyear : 0 ≤ a.year ∧ a.year ≤ 9999)
      (htime : isTime h m s) (hf : IsFraction f) (hzone : IsZone zone) :
      IsWritten a (a.text.toList ++ sep :: (timeText h m s f ++ zone))

theorem isTime_iff {h m s : ℕ} : isTime h m s ↔ h < 24 ∧ m < 60 ∧ s ≤ 60 := by
  simp [isTime, and_assoc]

theorem toList_text_append (a : Date) (rest : List Char) :
    a.text.toList ++ rest =
      yearText a.year ++ '-' :: (padded 2 a.month ++ '-' :: (padded 2 a.day ++ rest)) := by
  simp [text]

/-! ### Fields of written forms -/

theorem number_padded_of_lt {width n : ℕ} (hwidth : 0 < width) (hn : n < 10 ^ width)
    (hrest : ∀ c ∈ rest.head?, ¬ c.isDigit) :
    number width width (padded width n ++ rest) = some (n, rest) := by
  have hlength : (padded width n).length = width := length_padded_of_lt hwidth hn
  have hnumber := number_append (fun _ => isDigit_of_mem_padded) (Nat.le_of_eq hlength.symm)
    (Nat.le_of_eq hlength) hrest
  rwa [numberOf_padded] at hnumber

theorem number_two_padded {n : ℕ} (hn : n < 100) (hrest : ∀ c ∈ rest.head?, ¬ c.isDigit) :
    number 2 2 (padded 2 n ++ rest) = some (n, rest) :=
  number_padded_of_lt (by decide) hn hrest

theorem calendarStart_text (a : Date) (hrest : ∀ c ∈ rest.head?, ¬ c.isDigit) :
    calendarStart (a.text.toList ++ rest) = some ((a.year, a.month, a.day), rest) := by
  have hhyphen {t : List Char} : ∀ c ∈ ('-' :: t).head?, ¬ c.isDigit := head?_mark (.inl rfl) t
  simp only [toList_text_append, calendarStart, yearField_yearText a.year hhyphen, mark_cons_self,
    smallField_padded a.month_lt hhyphen, smallField_padded a.day_lt hrest, Option.bind_eq_bind,
    Option.bind_some, Option.pure_def]

theorem fixedDate_text {a : Date} (hyear : 0 ≤ a.year ∧ a.year ≤ 9999)
    (hrest : ∀ c ∈ rest.head?, ¬ c.isDigit) :
    fixedDate (a.text.toList ++ rest) = some ((a.year, a.month, a.day), rest) := by
  have hhyphen {t : List Char} : ∀ c ∈ ('-' :: t).head?, ¬ c.isDigit := head?_mark (.inl rfl) t
  have hyearField {t : List Char} :
      number 4 4 (padded 4 a.year.toNat ++ '-' :: t) = some (a.year.toNat, '-' :: t) :=
    number_padded_of_lt (by decide) (by omega) hhyphen
  have hcast : (a.year.toNat : Int) = a.year := Int.toNat_of_nonneg hyear.1
  simp only [toList_text_append, yearText, if_pos hyear, fixedDate, hyearField, mark_cons_self,
    number_two_padded a.month_lt hhyphen, number_two_padded a.day_lt hrest, hcast,
    Option.bind_eq_bind, Option.bind_some, Option.pure_def]

theorem fraction_append {f : List Char} (hf : IsFraction f)
    (hrest : ∀ c ∈ rest.head?, ¬ c.isDigit ∧ c ≠ '.') : fraction (f ++ rest) = some rest := by
  cases hf with
  | whole =>
    rw [List.nil_append]
    unfold fraction
    split
    · exact absurd rfl (hrest '.' rfl).2
    · rfl
  | @point ds hne hdigits =>
    have hafter : (ds ++ rest).dropWhile Char.isDigit = rest := by
      rw [List.dropWhile_append_of_pos hdigits]
      cases rest with
      | nil => rfl
      | cons c rest => exact List.dropWhile_cons_of_neg (hrest c rfl).1
    have hlength : 0 < ds.length := List.length_pos_of_ne_nil hne
    rw [List.cons_append, fraction, hafter]
    exact if_pos (by rw [List.length_append]; omega)

/-- A fraction and what follows it do not go on with the digits of the seconds. -/
theorem head?_fraction_append {f : List Char} (hf : IsFraction f)
    (hrest : ∀ c ∈ rest.head?, ¬ c.isDigit ∧ c ≠ '.') :
    ∀ c ∈ (f ++ rest).head?, ¬ c.isDigit := by
  cases hf with
  | whole => exact fun c hc => (hrest c hc).1
  | point hne hdigits =>
    rintro c ⟨⟩
    decide

theorem localTime_timeText {h m s : ℕ} {f : List Char} (htime : isTime h m s) (hf : IsFraction f) :
    localTime (timeText h m s f) = some [] := by
  obtain ⟨hh, hm, hs⟩ := isTime_iff.mp htime
  have hcolon {t : List Char} : ∀ c ∈ (':' :: t).head?, ¬ c.isDigit := head?_mark (.inr rfl) t
  have hend : ∀ c ∈ ([] : List Char).head?, ¬ c.isDigit ∧ c ≠ '.' :=
    fun c hc => absurd hc (Option.not_mem_none c)
  have hfraction := fraction_append hf hend
  have hhead := head?_fraction_append hf hend
  rw [List.append_nil] at hfraction hhead
  simp only [timeText, localTime, smallField_padded (Nat.lt_trans hh (by decide)) hcolon,
    smallField_padded (Nat.lt_trans hm (by decide)) hcolon, mark_cons_self,
    smallField_padded (Nat.lt_of_le_of_lt hs (by decide)) hhead, hfraction, htime, if_true,
    Option.bind_eq_bind, Option.bind_some]

theorem fixedTime_timeText {h m s : ℕ} {f : List Char} (htime : isTime h m s) (hf : IsFraction f)
    (hrest : ∀ c ∈ rest.head?, ¬ c.isDigit ∧ c ≠ '.') :
    fixedTime (timeText h m s f ++ rest) = some ((h, m, s), rest) := by
  obtain ⟨hh, hm, hs⟩ := isTime_iff.mp htime
  have hcolon {t : List Char} : ∀ c ∈ (':' :: t).head?, ¬ c.isDigit := head?_mark (.inr rfl) t
  have htext : timeText h m s f ++ rest =
      padded 2 h ++ ':' :: (padded 2 m ++ ':' :: (padded 2 s ++ (f ++ rest))) := by
    simp [timeText]
  simp only [htext, fixedTime, number_two_padded (Nat.lt_trans hh (by decide)) hcolon,
    number_two_padded (Nat.lt_trans hm (by decide)) hcolon, mark_cons_self,
    number_two_padded (Nat.lt_of_le_of_lt hs (by decide)) (head?_fraction_append hf hrest),
    fraction_append hf hrest, Option.bind_eq_bind, Option.bind_some, Option.pure_def]

theorem exists_offset_zone {zone : List Char} (h : IsZone zone) :
    ∃ seconds, offset zone = some (seconds, []) := by
  cases h with
  | universal hz => exact ⟨0, by rw [offset, if_pos hz]⟩
  | @shifted sign h m hsign hh hm =>
    have hcolon {t : List Char} : ∀ c ∈ (':' :: t).head?, ¬ c.isDigit := head?_mark (.inr rfl) t
    have hminutes : number 2 2 (padded 2 m) = some (m, []) := by
      rw [← List.append_nil (padded 2 m)]
      exact number_two_padded (Nat.lt_trans hm (by decide)) head?_nil
    have hzulu : ¬ (sign = 'Z' ∨ sign = 'z') := by
      rcases hsign with rfl | rfl | rfl <;> decide
    refine ⟨if sign = '+' then 3600 * h + 60 * m else -(3600 * h + 60 * m), ?_⟩
    simp only [offset, if_neg hzulu, if_pos hsign, mark_cons_self, hminutes, hh, hm, and_self,
      number_two_padded (Nat.lt_trans hh (by decide)) hcolon, if_true, Option.bind_eq_bind,
      Option.bind_some]

/-! ### Layouts of written forms -/

theorem calendarLayout_text (a : Date) : calendarLayout a.text.toList = some a := by
  have hstart := calendarStart_text a head?_nil
  rw [List.append_nil] at hstart
  simp only [calendarLayout, hstart, Option.bind_eq_bind, Option.bind_some]
  exact complete_eq_some_iff.mpr ⟨rfl, rfl⟩

theorem localLayout_text {separator : List Char → Option (List Char)} {sep : Char}
    {h m s : ℕ} {f : List Char} (hsep : ¬ sep.isDigit) (htime : isTime h m s) (hf : IsFraction f)
    (htaken : separator (sep :: timeText h m s f) = some (timeText h m s f)) :
    localLayout separator (a.text.toList ++ sep :: timeText h m s f) = some a := by
  have hhead : ∀ c ∈ (sep :: timeText h m s f).head?, ¬ c.isDigit := by
    rintro c ⟨⟩
    exact hsep
  simp only [localLayout, calendarStart_text a hhead, Option.bind_eq_bind, Option.bind_some,
    htaken, localTime_timeText htime hf]
  exact complete_eq_some_iff.mpr ⟨rfl, rfl⟩

theorem offsetLayout_text {sep : Char} {h m s : ℕ} {f zone : List Char}
    (hsep : sep = 't' ∨ sep = 'T' ∨ sep = ' ') (hyear : 0 ≤ a.year ∧ a.year ≤ 9999)
    (htime : isTime h m s) (hf : IsFraction f) (hzone : IsZone zone) :
    offsetLayout (a.text.toList ++ sep :: (timeText h m s f ++ zone)) = some a := by
  have hhead : ∀ c ∈ (sep :: (timeText h m s f ++ zone)).head?, ¬ c.isDigit := by
    rintro c ⟨⟩
    rcases hsep with rfl | rfl | rfl <;> decide
  have hrest : ∀ c ∈ zone.head?, ¬ c.isDigit ∧ c ≠ '.' := by
    cases hzone with
    | universal hz =>
      rintro c ⟨⟩
      rcases hz with rfl | rfl <;> decide
    | shifted hsign hh hm =>
      rintro c ⟨⟩
      rcases hsign with rfl | rfl | rfl <;> decide
  obtain ⟨seconds, hoffset⟩ := exists_offset_zone hzone
  have hcomplete : complete (a.year, a.month, a.day) [] = some a :=
    complete_eq_some_iff.mpr ⟨rfl, rfl⟩
  -- In years of four digits the moment of universal time is in the calendar.
  obtain ⟨here, hhere, hdate⟩ : ∃ here, Moment.of? a h m s = some here ∧ here.date = a :=
    ⟨_, dif_pos htime, rfl⟩
  obtain ⟨universal, huniversal⟩ : ∃ universal, here.shift? (-seconds) = some universal :=
    Moment.exists_shift? (by rw [hdate]; omega) (by rw [hdate]; omega) _
  have hback := Moment.shift?_neg huniversal
  rw [neg_neg] at hback
  simp only [offsetLayout, fixedDate_text hyear hhead, Option.bind_eq_bind, Option.bind_some,
    separator, if_pos hsep, fixedTime_timeText htime hf hrest, hoffset, hcomplete, hhere,
    huniversal, hback]
  exact congrArg some hdate

/-- A written date is read by some layout. -/
theorem exists_layout_of_isWritten {text : List Char} (h : IsWritten a text) :
    ∃ layout ∈ layouts, layout text = some a := by
  cases h with
  | alone => exact ⟨calendarLayout, by simp [layouts], calendarLayout_text a⟩
  | @withTime sep h m s f hsep htime hf =>
    rcases hsep with rfl | rfl
    · exact ⟨localLayout (mark 'T'), by simp [layouts],
        localLayout_text (by decide) htime hf (mark_cons_self _ _)⟩
    · refine ⟨localLayout fun s => some (trimStart s), by simp [layouts],
        localLayout_text (by decide) htime hf ?_⟩
      obtain ⟨c, t, ht, hc⟩ := exists_padded_append 2 h
        (':' :: (padded 2 m ++ ':' :: (padded 2 s ++ f)))
      rw [timeText, ht, trimStart, List.dropWhile_cons_of_pos (by decide), ← trimStart,
        trimStart_cons (isBlank_of_isDigit hc)]
  | withOffset hsep hyear htime hf hzone =>
    exact ⟨offsetLayout, by simp [layouts], offsetLayout_text hsep hyear htime hf hzone⟩

/-! ### Ends of written forms -/

theorem isBlank_eq_false_of_mem_padded {width n : ℕ} {c : Char} (hc : c ∈ padded width n) :
    isBlank c = false :=
  isBlank_of_isDigit (isDigit_of_mem_padded hc)

theorem IsFraction.isBlank_eq_false {f : List Char} (hf : IsFraction f) {c : Char} (hc : c ∈ f) :
    isBlank c = false := by
  cases hf with
  | whole => exact absurd hc List.not_mem_nil
  | point hne hdigits =>
    rcases List.mem_cons.mp hc with rfl | hc
    · decide
    · exact isBlank_of_isDigit (hdigits c hc)

theorem IsZone.isBlank_eq_false {zone : List Char} (h : IsZone zone) {c : Char} (hc : c ∈ zone) :
    isBlank c = false := by
  cases h with
  | universal hz =>
    obtain rfl := List.mem_singleton.mp hc
    rcases hz with rfl | rfl <;> decide
  | shifted hsign hh hm =>
    rcases List.mem_cons.mp hc with rfl | hc
    · rcases hsign with rfl | rfl | rfl <;> decide
    · rcases List.mem_append.mp hc with hc | hc
      · exact isBlank_eq_false_of_mem_padded hc
      · rcases List.mem_cons.mp hc with rfl | hc
        · decide
        · exact isBlank_eq_false_of_mem_padded hc

theorem exists_text_append_eq_cons (a : Date) (rest : List Char) :
    ∃ c t, a.text.toList ++ rest = c :: t ∧ isBlank c = false := by
  rw [toList_text_append, yearText]
  split_ifs
  · obtain ⟨c, t, ht, hc⟩ := exists_padded_append 4 a.year.toNat
      ('-' :: (padded 2 a.month ++ '-' :: (padded 2 a.day ++ rest)))
    exact ⟨c, t, ht, isBlank_of_isDigit hc⟩
  · exact ⟨_, _, rfl, by decide⟩
  · exact ⟨_, _, rfl, by decide⟩

/-- A written date ends with characters that are not blank: digits, or an offset. -/
theorem IsWritten.exists_append {text : List Char} (h : IsWritten a text) :
    ∃ front back, text = front ++ back ∧ back ≠ [] ∧ ∀ c ∈ back, isBlank c = false := by
  have hne (n : ℕ) : padded 2 n ≠ [] := List.ne_nil_of_length_pos (length_padded_pos 2 n)
  cases h with
  | alone =>
    refine ⟨yearText a.year ++ '-' :: (padded 2 a.month ++ ['-']), padded 2 a.day, ?_, hne _,
      fun c => isBlank_eq_false_of_mem_padded⟩
    simp [text]
  | @withTime sep h m s f hsep htime hf =>
    refine ⟨a.text.toList ++ sep :: (padded 2 h ++ ':' :: (padded 2 m ++ [':'])), padded 2 s ++ f,
      ?_, List.append_ne_nil_of_left_ne_nil (hne _) _, fun c hc => ?_⟩
    · simp [timeText]
    · rcases List.mem_append.mp hc with hc | hc
      · exact isBlank_eq_false_of_mem_padded hc
      · exact hf.isBlank_eq_false hc
  | @withOffset sep h m s f zone hsep hyear htime hf hzone =>
    refine ⟨a.text.toList ++ sep :: timeText h m s f, zone, ?_, ?_, fun c => hzone.isBlank_eq_false⟩
    · simp
    · cases hzone <;> exact List.cons_ne_nil _ _

theorem IsWritten.exists_text_append {text : List Char} (h : IsWritten a text) :
    ∃ rest, text = a.text.toList ++ rest := by
  cases h with
  | alone => exact ⟨[], (List.append_nil _).symm⟩
  | withTime => exact ⟨_, rfl⟩
  | withOffset => exact ⟨_, rfl⟩

/-- Blanks around a written date are dropped. -/
theorem IsWritten.trim_append {text left right : List Char} (h : IsWritten a text)
    (hleft : ∀ c ∈ left, isBlank c) (hright : ∀ c ∈ right, isBlank c) :
    trim (left ++ text ++ right) = text := by
  obtain ⟨front, back, hback, hne, hlast⟩ := h.exists_append
  obtain ⟨rest, hrest⟩ := h.exists_text_append
  obtain ⟨c, t, htext, hc⟩ := exists_text_append_eq_cons a rest
  refine Text.trim_append hleft hright ?_ ?_ ?_
  · rw [hrest, htext]
    exact List.cons_ne_nil _ _
  · rw [hrest, htext]
    rintro c ⟨⟩
    exact hc
  · intro c hc
    rw [hback, List.getLast?_append_of_ne_nil _ hne] at hc
    exact hlast c (List.mem_of_getLast? hc)

/-! ### Dates of front matter -/

/-- A scalar with a hyphen sets its field, unless its tag says otherwise. -/
theorem isSet?_of_mem {anchor : Option ℕ} {tag : Option (List Char)} {style : Yaml.ScalarStyle}
    {raw : List Char} (htag : tag ≠ some FrontMatter.nullTag) (hraw : '-' ∈ raw) :
    FrontMatter.isSet? (.scalar anchor tag style raw) = some true := by
  have hempty : raw.isEmpty = false := by
    cases raw with
    | nil => exact absurd hraw List.not_mem_nil
    | cons c raw => rfl
  have hnull : FrontMatter.isNull raw = false := by
    rw [FrontMatter.isNull, ← Bool.not_eq_true, List.contains_iff_mem]
    intro hmem
    have hhyphen : ∀ word ∈ ["null", "Null", "NULL", "~"], '-' ∉ word.toList := by decide
    exact hhyphen _ hmem (by rwa [String.toList_ofList])
  cases style with
  | plain =>
    cases tag with
    | none => rw [FrontMatter.isSet?, hempty, hnull]; rfl
    | some tag => exact if_pos fun heq => htag (congrArg some heq)
  | _ => cases tag <;> rfl

theorem set_date {all rest : List Yaml.Event} {fields : FrontMatter} {anchor : Option ℕ}
    {tag : Option (List Char)} {style : Yaml.ScalarStyle} {raw : List Char}
    (htag : tag ≠ some FrontMatter.nullTag) (hraw : '-' ∈ raw)
    (h : ofText? (String.ofList raw) = some a) :
    FrontMatter.set all (.scalar anchor tag style raw :: rest) fields .date =
      .ok { fields with date := some a } := by
  have hset : FrontMatter.isSet? (.scalar anchor tag style raw) = some true :=
    isSet?_of_mem htag hraw
  simp only [FrontMatter.set, FrontMatter.node?, bind, Except.bind, hset, FrontMatter.scalarText?,
    Option.map_some, h]
  rfl

/-- **Dates mean the day that is written.** A date that is written alone, with a time of day, or
with a time of day and an offset of less than a day, is read as that date, with blanks around it or
without. No layout reads another date from it, and front matter with such a scalar has that date.
Whatever else is accepted has its date at its start too. -/
theorem dates_as_written :
    (∀ (a : Date) (text left right : List Char), IsWritten a text → (∀ c ∈ left, isBlank c) →
      (∀ c ∈ right, isBlank c) →
        ofText? (String.ofList (left ++ text ++ right)) = some a ∧
        (∀ layout ∈ layouts, ∀ b, layout text = some b → b = a) ∧
        ∀ all rest fields anchor tag style, tag ≠ some FrontMatter.nullTag →
          FrontMatter.set all (.scalar anchor tag style (left ++ text ++ right) :: rest) fields
            .date = .ok { fields with date := some a }) ∧
      ∀ (s : String) (b : Date), ofText? s = some b →
        ∃ rest, calendarStart (trim s.toList) = some ((b.year, b.month, b.day), rest) := by
  constructor
  · intro a text left right hwritten hleft hright
    -- One layout reads the date; the ones before it read nothing or the same.
    obtain ⟨layout, hlayout, hread⟩ := exists_layout_of_isWritten hwritten
    have hdate : ofText? (String.ofList (left ++ text ++ right)) = some a := by
      rw [ofText?, String.toList_ofList, hwritten.trim_append hleft hright]
      exact ofChars?_eq_some hlayout hread
    have hhyphen : '-' ∈ left ++ text ++ right := by
      obtain ⟨rest, hrest⟩ := hwritten.exists_text_append
      rw [hrest, toList_text_append]
      simp
    refine ⟨hdate, fun other hother b hb => eq_of_layouts hother hlayout hb hread, ?_⟩
    intro all rest fields anchor tag style htag
    exact set_date htag hhyphen hdate
  · intro s b h
    obtain ⟨layout, hlayout, hread⟩ := List.exists_of_findSome?_eq_some h
    exact calendarStart_of_layout hlayout hread

/-- The last day of a year in a leap second, at an offset by which it is the next year in universal
time already, between blanks of other scripts, and a day of a year before year 0. -/
theorem dates_as_written_of_year_end :
    let a : Date := ⟨9999, 12, 31, by decide⟩
    let b : Date := ⟨-44, 3, 15, by decide⟩
    IsWritten a "9999-12-31T23:59:60.25-23:59".toList ∧
      ofText? "\u2003 9999-12-31T23:59:60.25-23:59\u0085" = some a ∧
      IsWritten b "-0044-03-15 07:05:09".toList ∧ ofText? "-0044-03-15 07:05:09" = some b := by
  intro a b
  have hfraction : IsFraction ".25".toList :=
    .point (List.cons_ne_nil '2' ['5']) (List.all_eq_true.mp (by decide))
  have hzone : IsZone ('-' :: (padded 2 23 ++ ':' :: padded 2 59)) :=
    .shifted (.inr (.inl rfl)) (by decide) (by decide)
  have ha : IsWritten a "9999-12-31T23:59:60.25-23:59".toList := by
    have hwritten : IsWritten a (a.text.toList ++ 'T' :: (timeText 23 59 60 ".25".toList ++
        '-' :: (padded 2 23 ++ ':' :: padded 2 59))) :=
      .withOffset (.inr (.inl rfl)) (by decide) (by decide) hfraction hzone
    rwa [show a.text.toList ++ _ = "9999-12-31T23:59:60.25-23:59".toList by decide +kernel]
      at hwritten
  have hb : IsWritten b "-0044-03-15 07:05:09".toList := by
    have hwritten : IsWritten b (b.text.toList ++ ' ' :: timeText 7 5 9 []) :=
      .withTime (.inr rfl) (by decide) .whole
    rwa [show b.text.toList ++ _ = "-0044-03-15 07:05:09".toList by decide +kernel] at hwritten
  obtain ⟨hread, -⟩ := dates_as_written
  refine ⟨ha, ?_, hb, ?_⟩
  · exact (hread a _ "\u2003 ".toList "\u0085".toList ha (List.all_eq_true.mp (by decide))
      (List.all_eq_true.mp (by decide))).1
  · exact (hread b _ [] [] hb (List.forall_mem_nil _) (List.forall_mem_nil _)).1

end DocSite.Date
