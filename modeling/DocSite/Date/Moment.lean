import DocSite.Date.Basic

/-!
# Days and times of day

* `Date.next?` and `Date.previous?` are the neighbours of a day in the calendar.
* A `Moment` is a day and a second of it. `Moment.shift?` moves it by less than a day either way, as
  an offset from universal time does.
-/

namespace DocSite

namespace Date

/-- The day after, unless it is the last day of the calendar. -/
def next? (a : Date) : Option Date :=
  if a.day < daysInMonth a.year a.month then of? a.year a.month (a.day + 1)
  else if a.month < 12 then of? a.year (a.month + 1) 1
  else of? (a.year + 1) 1 1

/-- The day before, unless it is the first day of the calendar. -/
def previous? (a : Date) : Option Date :=
  if 1 < a.day then of? a.year a.month (a.day - 1)
  else if 1 < a.month then of? a.year (a.month - 1) (daysInMonth a.year (a.month - 1))
  else of? (a.year - 1) 12 31

/-- The day after for 1, the day before for -1, and else the day itself. -/
def neighbour? (a : Date) (days : Int) : Option Date :=
  if days = -1 then a.previous? else if days = 1 then a.next? else some a

/-- A time of day; the second 60 is a leap second. -/
def isTime (h m s : Nat) : Bool :=
  h < 24 && m < 60 && s ≤ 60

end Date

/-- A second of a day of the calendar. -/
@[ext]
structure Moment where
  date : Date
  second : Nat
  second_lt : second < 86400
deriving DecidableEq, Repr

namespace Moment

/-- The second of a day at which a time of day stands. A leap second is part of the second
before. -/
def of? (date : Date) (h m s : Nat) : Option Moment :=
  if hlt : Date.isTime h m s then
    some {
      date
      second := 3600 * h + 60 * m + min s 59
      second_lt := by
        simp only [Date.isTime, Bool.and_eq_true, decide_eq_true_eq] at hlt
        omega }
  else none

/-- A moment less than a day later, or earlier if the seconds are negative. -/
def shift? (a : Moment) (seconds : Int) : Option Moment :=
  let total := (a.second : Int) + seconds
  (a.date.neighbour? (total / 86400)).map fun date =>
    { date, second := (total % 86400).toNat, second_lt := by omega }

end Moment

end DocSite
