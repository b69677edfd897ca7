import DocSite.Date.Moment
import DocSite.Proofs.Date
import Mathlib.Tactic.Common

/-!
# Moments and their neighbours

* `next?_eq_some_iff_previous?`: a day is the one before another exactly if that is the one after
  it.
* `shift?_neg`: a moment that was moved is moved back by the opposite of it, so that a time which is
  taken to universal time and back has its own date again.
* `exists_shift?`: moving does not leave the calendar, unless it starts from its first or last year.
-/

namespace DocSite

namespace Date

theorem of?_eq_some_iff {y : Int} {m d : ℕ} {a : Date} :
    of? y m d = some a ↔ a.year = y ∧ a.month = m ∧ a.day = d := by
  unfold of?
  constructor
  · intro h
    split_ifs at h with hday
    obtain rfl := Option.some.inj h
    exact ⟨rfl, rfl, rfl⟩
  · rintro ⟨rfl, rfl, rfl⟩
    exact dif_pos a.isCalendarDay

theorem exists_of? {y : Int} {m d : ℕ} (h : IsCalendarDay y m d) : ∃ a, of? y m d = some a :=
  ⟨_, dif_pos h⟩

/-! ### Neighbours in the calendar -/

/-- One day follows another: it is the next one of the month, the first of the next month, or the
first of the next year. -/
inductive Follows (b a : Date) : Prop
  | sameMonth (year : b.year = a.year) (month : b.month = a.month) (day : b.day = a.day + 1)
  | nextMonth (year : b.year = a.year) (month : b.month = a.month + 1) (first : b.day = 1)
      (last : a.day = daysInMonth a.year a.month)
  | nextYear (year : b.year = a.year + 1) (january : b.month = 1) (first : b.day = 1)
      (december : a.month = 12) (last : a.day = 31)

theorem daysInMonth_december (y : Int) : daysInMonth y 12 = 31 := by
  simp [daysInMonth]

theorem one_le_month (a : Date) : 1 ≤ a.month := by
  have hdays : 0 < daysInMonth a.year a.month :=
    Nat.lt_of_lt_of_le a.isCalendarDay.2.1 a.isCalendarDay.2.2
  by_contra hzero
  have hmonth : a.month = 0 := by omega
  simp [hmonth, daysInMonth] at hdays

theorem next?_eq_some_iff {a b : Date} : a.next? = some b ↔ Follows b a := by
  have hlast : a.day ≤ daysInMonth a.year a.month := a.isCalendarDay.2.2
  have hmonth : a.month ≤ 12 := a.isCalendarDay.month_le
  unfold next?
  constructor
  · intro h
    split_ifs at h with hinside hyear
    · obtain ⟨hy, hm, hd⟩ := of?_eq_some_iff.mp h
      exact .sameMonth hy hm hd
    · obtain ⟨hy, hm, hd⟩ := of?_eq_some_iff.mp h
      exact .nextMonth hy hm hd (by omega)
    · obtain ⟨hy, hm, hd⟩ := of?_eq_some_iff.mp h
      have hdecember : a.month = 12 := by omega
      rw [hdecember, daysInMonth_december] at hlast hinside
      exact .nextYear hy hm hd hdecember (by omega)
  · intro h
    cases h with
    | sameMonth hy hm hd =>
      have hnext : b.day ≤ daysInMonth b.year b.month := b.isCalendarDay.2.2
      rw [hy, hm] at hnext
      rw [if_pos (by omega)]
      exact of?_eq_some_iff.mpr ⟨hy, hm, hd⟩
    | nextMonth hy hm hd hend =>
      have hnext : b.month ≤ 12 := b.isCalendarDay.month_le
      rw [if_neg (by omega), if_pos (by omega)]
      exact of?_eq_some_iff.mpr ⟨hy, hm, hd⟩
    | nextYear hy hm hd hdecember hend =>
      rw [hdecember, daysInMonth_december, if_neg (by omega), if_neg (by omega)]
      exact of?_eq_some_iff.mpr ⟨hy, hm, hd⟩

theorem previous?_eq_some_iff {a b : Date} : b.previous? = some a ↔ Follows b a := by
  have hday : 1 ≤ b.day := b.isCalendarDay.2.1
  have hmonth : 1 ≤ b.month := b.one_le_month
  unfold previous?
  constructor
  · intro h
    split_ifs at h with hinside hyear
    · obtain ⟨hy, hm, hd⟩ := of?_eq_some_iff.mp h
      exact .sameMonth hy.symm hm.symm (by omega)
    · obtain ⟨hy, hm, hd⟩ := of?_eq_some_iff.mp h
      exact .nextMonth hy.symm (by omega) (by omega) (by rw [hy, hm, hd])
    · obtain ⟨hy, hm, hd⟩ := of?_eq_some_iff.mp h
      exact .nextYear (by omega) (by omega) (by omega) hm hd
  · intro h
    cases h with
    | sameMonth hy hm hd =>
      have hfirst : 1 ≤ a.day := a.isCalendarDay.2.1
      rw [if_pos (by omega)]
      exact of?_eq_some_iff.mpr ⟨hy.symm, hm.symm, by omega⟩
    | nextMonth hy hm hd hend =>
      have hfirst : 1 ≤ a.month := a.one_le_month
      rw [if_neg (by omega), if_pos (by omega), hm, Nat.add_sub_cancel, hy]
      exact of?_eq_some_iff.mpr ⟨rfl, rfl, hend⟩
    | nextYear hy hm hd hdecember hend =>
      rw [if_neg (by omega), if_neg (by omega)]
      exact of?_eq_some_iff.mpr ⟨by omega, hdecember, hend⟩

/-- A day is the one before another exactly if that is the one after it. -/
theorem next?_eq_some_iff_previous? {a b : Date} : a.next? = some b ↔ b.previous? = some a :=
  next?_eq_some_iff.trans previous?_eq_some_iff.symm

theorem exists_next? {a : Date} (h : a.year < 262142) : ∃ b, a.next? = some b := by
  obtain ⟨⟨hlow, -⟩, hfirst, -⟩ := a.isCalendarDay
  unfold next?
  split_ifs with hinside hyear
  · exact exists_of? ⟨⟨hlow, by omega⟩, by omega, by omega⟩
  · have hpos : 1 ≤ daysInMonth a.year (a.month + 1) := by
      unfold daysInMonth
      split_ifs <;> omega
    exact exists_of? ⟨⟨hlow, by omega⟩, Nat.le_refl 1, hpos⟩
  · exact exists_of? ⟨⟨by omega, by omega⟩, Nat.le_refl 1, by simp [daysInMonth]⟩

theorem exists_previous? {a : Date} (h : -262143 < a.year) : ∃ b, a.previous? = some b := by
  obtain ⟨⟨-, hhigh⟩, hfirst, hlast⟩ := a.isCalendarDay
  have hmonth : a.month ≤ 12 := a.isCalendarDay.month_le
  unfold previous?
  split_ifs with hinside hyear
  · exact exists_of? ⟨⟨by omega, hhigh⟩, by omega, by omega⟩
  · have hpos : 1 ≤ daysInMonth a.year (a.month - 1) := by
      unfold daysInMonth
      split_ifs <;> omega
    exact exists_of? ⟨⟨by omega, hhigh⟩, hpos, Nat.le_refl _⟩
  · exact exists_of? ⟨⟨by omega, by omega⟩, by decide, by rw [daysInMonth_december]⟩

/-- As many days back lead to the day again. -/
theorem neighbour?_neg {a b : Date} {days : Int} (h : a.neighbour? days = some b) :
    b.neighbour? (-days) = some a := by
  unfold neighbour? at h ⊢
  split_ifs at h with hbefore hafter
  · rw [if_neg (by omega), if_pos (by omega)]
    exact next?_eq_some_iff_previous?.mpr h
  · rw [if_pos (by omega)]
    exact next?_eq_some_iff_previous?.mp h
  · rw [if_neg (by omega), if_neg (by omega), Option.some.inj h]

theorem exists_neighbour? {a : Date} (hfirst : -262143 < a.year) (hlast : a.year < 262142)
    (days : Int) : ∃ b, a.neighbour? days = some b := by
  unfold neighbour?
  split_ifs
  · exact exists_previous? hfirst
  · exact exists_next? hlast
  · exact ⟨a, rfl⟩

end Date

/-! ### Moving a moment -/

namespace Moment

theorem of?_eq_some_iff {a : Moment} {date : Date} {h m s : ℕ} :
    of? date h m s = some a ↔
      Date.isTime h m s ∧ a.date = date ∧ a.second = 3600 * h + 60 * m + min s 59 := by
  unfold of?
  constructor
  · intro hmoment
    split_ifs at hmoment with htime
    obtain rfl := Option.some.inj hmoment
    exact ⟨htime, rfl, rfl⟩
  · rintro ⟨htime, rfl, hsecond⟩
    rw [dif_pos htime]
    exact congrArg some (Moment.ext rfl hsecond.symm)

theorem shift?_eq_some_iff {a b : Moment} {seconds : Int} :
    a.shift? seconds = some b ↔
      a.date.neighbour? ((a.second + seconds) / 86400) = some b.date ∧
        (b.second : Int) = (a.second + seconds) % 86400 := by
  unfold shift?
  rw [Option.map_eq_some_iff]
  constructor
  · rintro ⟨date, hdate, rfl⟩
    refine ⟨hdate, ?_⟩
    show ((((a.second : Int) + seconds) % 86400).toNat : Int) = _
    omega
  · rintro ⟨hdate, hsecond⟩
    refine ⟨b.date, hdate, Moment.ext rfl ?_⟩
    show (((a.second : Int) + seconds) % 86400).toNat = b.second
    omega

/-- **Moving a moment back undoes moving it.** -/
theorem shift?_neg {a b : Moment} {seconds : Int} (h : a.shift? seconds = some b) :
    b.shift? (-seconds) = some a := by
  obtain ⟨hdate, hsecond⟩ := shift?_eq_some_iff.mp h
  have hlt : a.second < 86400 := a.second_lt
  refine shift?_eq_some_iff.mpr ⟨?_, ?_⟩
  · -- As many days are moved back.
    have hdays : ((b.second : Int) + -seconds) / 86400 = -((a.second + seconds) / 86400) := by omega
    rw [hdays]
    exact Date.neighbour?_neg hdate
  · omega

theorem exists_shift? {a : Moment} (hfirst : -262143 < a.date.year) (hlast : a.date.year < 262142)
    (seconds : Int) : ∃ b, a.shift? seconds = some b := by
  obtain ⟨date, hdate⟩ := Date.exists_neighbour? hfirst hlast ((a.second + seconds) / 86400)
  exact ⟨_, Option.map_eq_some_iff.mpr ⟨date, hdate, rfl⟩⟩

end Moment

end DocSite
