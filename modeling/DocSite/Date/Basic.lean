/-!
# Calendar dates

* `Date` is a day of the proleptic Gregorian calendar between the years -262143 and 262142; the
  year before year 1 is year 0.
* `Date.text` writes a date as `YYYY-MM-DD`; years outside 0 to 9999 carry their sign and have at
  least four digits.
* `Date.before` is the order of time.
-/

namespace DocSite

/-- A leap year of the Gregorian calendar. -/
def isLeapYear (y : Int) : Bool :=
  y % 4 == 0 && (y % 100 != 0 || y % 400 == 0)

/-- The number of days of a month; zero for a number that is no month. -/
def daysInMonth (y : Int) (m : Nat) : Nat :=
  if m = 2 then (if isLeapYear y then 29 else 28)
  else if m = 4 ∨ m = 6 ∨ m = 9 ∨ m = 11 then 30
  else if 1 ≤ m ∧ m ≤ 12 then 31
  else 0

/-- A year, month and day name a day of the calendar. -/
def IsCalendarDay (y : Int) (m d : Nat) : Prop :=
  (-262143 ≤ y ∧ y ≤ 262142) ∧ 1 ≤ d ∧ d ≤ daysInMonth y m

instance (y : Int) (m d : Nat) : Decidable (IsCalendarDay y m d) :=
  inferInstanceAs (Decidable (_ ∧ _))

/-- A day of the calendar. -/
structure Date where
  year : Int
  month : Nat
  day : Nat
  isCalendarDay : IsCalendarDay year month day
deriving DecidableEq, Repr

namespace Date

/-- The date of a year, month and day, if there is such a day. -/
def of? (y : Int) (m d : Nat) : Option Date :=
  if h : IsCalendarDay y m d then some ⟨y, m, d, h⟩ else none

/-- An earlier day. -/
def before (a b : Date) : Bool :=
  a.year < b.year || (a.year == b.year &&
    (a.month < b.month || (a.month == b.month && a.day < b.day)))

/-! ### Text -/

/-- A number with at least `width` decimal digits. -/
def padded (width n : Nat) : List Char :=
  let digits := (toString n).toList
  List.replicate (width - digits.length) '0' ++ digits

/-- A year: four digits, or a sign and at least four digits outside 0 to 9999. -/
def yearText (y : Int) : List Char :=
  if 0 ≤ y ∧ y ≤ 9999 then padded 4 y.toNat
  else (if y < 0 then '-' else '+') :: padded 4 y.natAbs

/-- A date as year, month and day with hyphens between them. -/
def text (a : Date) : String :=
  String.ofList
    (yearText a.year ++ '-' :: padded 2 a.month ++ '-' :: padded 2 a.day)

end Date

end DocSite
