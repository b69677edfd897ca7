import DocSite.Date.Moment
import DocSite.Text.Blank
import DocSite.Text.Digit

/-!
# Reading dates

A date is read from the start of a text by steps that take a field or a mark each and hand on the
rest; a layout is a chain of steps that has to use the whole text.

* `calendarLayout` is year, month and day with hyphens; `looseLayout` also allows blanks before the
  hyphens and at the end.
* `offsetLayout` is a timestamp of fixed width with an offset from universal time; `localLayout` is
  one without an offset, its fields written like those of `calendarLayout`.
* A timestamp with an offset is read as a moment of universal time, and its date is taken from that
  moment at the offset.
* `ofText?` tries the layouts in turn and reads a date of a page; `ofJsonText?` reads a date of a
  record.
-/

namespace DocSite.Date

open Text

/-! ### Steps -/

/-- A number of at least `least` and at most `most` digits, as long as the text has them. -/
def number (least most : Nat) (s : List Char) : Option (Nat × List Char) :=
  let digits := (s.take most).takeWhile Char.isDigit
  if digits.length < least then none else some (numberOf 10 digits, s.drop digits.length)

/-- The text after a mark. -/
def mark (c : Char) : List Char → Option (List Char)
  | [] => none
  | d :: rest => if d = c then some rest else none

/-- A year after blanks: any number of digits after a sign, up to four without one. -/
def yearField (s : List Char) : Option (Int × List Char) :=
  match trimStart s with
  | '-' :: rest => (number 1 rest.length rest).map fun (n, rest) => (-(n : Int), rest)
  | '+' :: rest => (number 1 rest.length rest).map fun (n, rest) => ((n : Int), rest)
  | s => (number 1 4 s).map fun (n, rest) => ((n : Int), rest)

/-- One or two digits after blanks. -/
def smallField (s : List Char) : Option (Nat × List Char) :=
  number 1 2 (trimStart s)

/-- The digits of a fraction of a second after its point, if a point stands there. -/
def fraction : List Char → Option (List Char)
  | '.' :: rest =>
    let after := rest.dropWhile Char.isDigit
    if after.length < rest.length then some after else none
  | s => some s

/-! ### Layouts -/

/-- Year, month and day with hyphens, numbers not padded and blanks before each of them. -/
def calendarStart (s : List Char) : Option ((Int × Nat × Nat) × List Char) := do
  let (y, s) ← yearField s
  let (m, s) ← smallField (← mark '-' s)
  let (d, s) ← smallField (← mark '-' s)
  return ((y, m, d), s)

/-- The date of fields, if nothing is left of the text. -/
def complete (fields : Int × Nat × Nat) (rest : List Char) : Option Date :=
  if rest.isEmpty then of? fields.1 fields.2.1 fields.2.2 else none

/-- A date alone. -/
def calendarLayout (s : List Char) : Option Date := do
  let (fields, s) ← calendarStart s
  complete fields s

/-- A date with blanks allowed around every part. -/
def looseLayout (s : List Char) : Option Date := do
  let (y, s) ← yearField s
  let (m, s) ← smallField (← mark '-' (trimStart s))
  let (d, s) ← smallField (← mark '-' (trimStart s))
  complete (y, m, d) (trimStart s)

/-- A time without an offset after its separator was taken. -/
def localTime (s : List Char) : Option (List Char) := do
  let (h, s) ← smallField s
  let (m, s) ← smallField (← mark ':' s)
  let (sec, s) ← smallField (← mark ':' s)
  let s ← fraction s
  if isTime h m sec then some s else none

/-- A date, a separator and a time without an offset. -/
def localLayout (separator : List Char → Option (List Char)) (s : List Char) : Option Date := do
  let (fields, s) ← calendarStart s
  complete fields (← localTime (← separator s))

/-- The seconds of an offset from universal time, positive to the east: `Z`, or a sign, hours and
minutes of two digits each. -/
def offset : List Char → Option (Int × List Char)
  | [] => none
  | c :: rest =>
    if c = 'Z' ∨ c = 'z' then some (0, rest)
    else if c = '+' ∨ c = '-' ∨ c = '\u2212' then do
      let (h, rest) ← number 2 2 rest
      let (m, rest) ← number 2 2 (← mark ':' rest)
      let seconds : Int := 3600 * h + 60 * m
      if h < 24 ∧ m < 60 then some (if c = '+' then seconds else -seconds, rest) else none
    else none

/-- Year, month and day with hyphens, of four and of two digits. -/
def fixedDate (s : List Char) : Option ((Int × Nat × Nat) × List Char) := do
  let (y, s) ← number 4 4 s
  let (m, s) ← number 2 2 (← mark '-' s)
  let (d, s) ← number 2 2 (← mark '-' s)
  return (((y : Int), m, d), s)

/-- The text after what separates the date of a timestamp with an offset from its time. -/
def separator : List Char → Option (List Char)
  | [] => none
  | c :: rest => if c = 't' ∨ c = 'T' ∨ c = ' ' then some rest else none

/-- Hours, minutes and seconds of two digits, with or without a fraction. -/
def fixedTime (s : List Char) : Option ((Nat × Nat × Nat) × List Char) := do
  let (h, s) ← number 2 2 s
  let (m, s) ← number 2 2 (← mark ':' s)
  let (sec, s) ← number 2 2 (← mark ':' s)
  return ((h, m, sec), ← fraction s)

/-- A timestamp of fixed width with an offset. It stands for a moment of universal time, and its
date is the one which that moment has at the offset. -/
def offsetLayout (s : List Char) : Option Date := do
  let (day, s) ← fixedDate s
  let ((h, m, sec), s) ← fixedTime (← separator s)
  let (seconds, s) ← offset s
  let here ← Moment.of? (← complete day s) h m sec
  let universal ← here.shift? (-seconds)
  let there ← universal.shift? seconds
  return there.date

/-! ### Texts -/

/-- The layouts of a date: alone, a timestamp with an offset, or one without, with a `T` or blanks
in it. -/
def layouts : List (List Char → Option Date) :=
  [calendarLayout, offsetLayout, localLayout (mark 'T'), localLayout fun s => some (trimStart s)]

/-- The date that the first layout reads. -/
def ofChars? (s : List Char) : Option Date :=
  layouts.findSome? fun layout => layout s

/-- The date of a text without blanks at its ends. -/
def ofText? (s : String) : Option Date :=
  ofChars? (trim s.toList)

/-- The date of a record's date field. -/
def ofJsonText? (s : String) : Option Date :=
  looseLayout s.toList

end DocSite.Date
