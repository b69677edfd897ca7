import DocSite.Date.Basic
import DocSite.Text.Digit
import DocSite.Toml.Basic

/-!
# TOML numbers and times

Every reader takes the longest number or time at the start of a text and answers what follows it.

* `integer?` reads a 64-bit integer in one of four bases, `float?` a floating-point number that is
  not too large, and `time?` a date, a time of day or both, whose fields have to be possible.
* `number?` reads any of them.
-/

namespace DocSite.Toml

/-! ### Integers -/

/-- Digits with single underscores between them, without the underscores, and what follows. -/
def digits? (p : Char → Bool) : List Char → Option (List Char × List Char)
  | [] => none
  | c :: rest =>
    if !p c then none
    else match rest with
      | '_' :: rest => (digits? p rest).map fun (ds, rest) => (c :: ds, rest)
      | rest =>
        match digits? p rest with
        | some (ds, rest) => some (c :: ds, rest)
        | none => if rest.head?.any p then none else some ([c], rest)

/-- A sign that may stand in front: whether it is a minus, and what follows. -/
def sign : List Char → Bool × List Char
  | '-' :: rest => (true, rest)
  | '+' :: rest => (false, rest)
  | s => (false, s)

/-- Decimal digits, of which only a single one may be a leading zero. -/
def decimalDigits? : List Char → Option (List Char × List Char)
  | '0' :: rest => some (['0'], rest)
  | s => digits? Char.isDigit s

/-- The integers from `-2^63` below `2^63`. -/
def isWord (n : Int) : Bool :=
  -(Nat.pow 2 63 : Int) ≤ n && n < (Nat.pow 2 63 : Int)

/-- An integer, and what follows it. -/
def integer? (s : List Char) : Option (Int × List Char) := do
  let (n, rest) ← match s with
    | '0' :: 'x' :: rest =>
      (digits? Text.isHexDigit rest).map fun (ds, rest) => ((Text.numberOf 16 ds : Int), rest)
    | '0' :: 'o' :: rest =>
      (digits? (fun c => '0' ≤ c && c ≤ '7') rest).map fun (ds, rest) =>
        ((Text.numberOf 8 ds : Int), rest)
    | '0' :: 'b' :: rest =>
      (digits? (fun c => c == '0' || c == '1') rest).map fun (ds, rest) =>
        ((Text.numberOf 2 ds : Int), rest)
    | s =>
      let (negative, rest) := sign s
      (decimalDigits? rest).map fun (ds, rest) =>
        let n : Int := Text.numberOf 10 ds
        (if negative then -n else n, rest)
  if isWord n then return (n, rest) else none

/-! ### Floating-point numbers -/

/-- Whether the number `n` times ten to the power of `e` is nearest to no number of double
precision. -/
def isTooLarge (n : Nat) (e : Int) : Bool :=
  let places : Int := (Nat.toDigits 10 n).length + e
  if n = 0 ∨ places < 300 then false
  else if 400 < places then true
  else
    let bound := Nat.pow 2 1024 - Nat.pow 2 970
    if 0 ≤ e then bound ≤ n * Nat.pow 10 e.toNat else bound * Nat.pow 10 (-e).toNat ≤ n

/-- A fraction after its point, or nothing where there is no point. -/
def fraction? : List Char → Option (List Char × List Char)
  | '.' :: rest => digits? Char.isDigit rest
  | s => some ([], s)

/-- An exponent after its letter; nothing stands for zero where there is no letter. -/
def exponent? (s : List Char) : Option (Option Int × List Char) :=
  match s with
  | c :: rest =>
    if c = 'e' ∨ c = 'E' then
      let (negative, rest) := sign rest
      (digits? Char.isDigit rest).map fun (ds, rest) =>
        let n : Int := Text.numberOf 10 ds
        (some (if negative then -n else n), rest)
    else some (none, s)
  | [] => some (none, s)

/-- The text of a word at the start of another. -/
def word? (w : String) (s : List Char) : Option (List Char) :=
  if w.toList.isPrefixOf s then some (s.drop w.length) else none

/-- A number with a fraction, an exponent or both, or one that is infinite or none; and what follows
it. -/
def float? (s : List Char) : Option (String × List Char) :=
  let (negative, rest) := sign s
  let special := (word? "inf" rest).or (word? "nan" rest)
  match special with
  | some after => some (String.ofList (s.take (s.length - after.length)), after)
  | none => do
    let (whole, rest) ← decimalDigits? rest
    let (part, rest) ← fraction? rest
    let (power, rest) ← exponent? rest
    let tooLarge :=
      isTooLarge (Text.numberOf 10 (whole ++ part)) (power.getD 0 - (part.length : Int))
    if (part.isEmpty ∧ power.isNone) ∨ (tooLarge ∧ !negative) then none
    else return (String.ofList (s.take (s.length - rest.length)), rest)

/-! ### Times -/

/-- A field of exactly `n` digits whose value lies between two bounds. -/
def field? (n least most : Nat) (s : List Char) : Option (Nat × List Char) :=
  let digits := s.take n
  let v := Text.numberOf 10 digits
  if digits.length = n ∧ digits.all Char.isDigit ∧ least ≤ v ∧ v ≤ most then some (v, s.drop n)
  else none

/-- The text after a mark. -/
def mark? (c : Char) : List Char → Option (List Char)
  | [] => none
  | d :: rest => if d = c then some rest else none

/-- The text after a date. -/
def afterDate? (s : List Char) : Option (List Char) := do
  let (year, s) ← field? 4 0 9999 s
  let (month, s) ← field? 2 1 12 (← mark? '-' s)
  let (_, s) ← field? 2 1 (daysInMonth year month) (← mark? '-' s)
  return s

/-- The text after a time of day. -/
def afterTimeOfDay? (s : List Char) : Option (List Char) := do
  let (_, s) ← field? 2 0 23 s
  let (_, s) ← field? 2 0 59 (← mark? ':' s)
  let (_, s) ← field? 2 0 60 (← mark? ':' s)
  match s with
  | '.' :: rest =>
    let digits := rest.takeWhile Char.isDigit
    return if digits.isEmpty then s else rest.drop digits.length
  | s => return s

/-- The text after an offset from universal time, if one stands there. -/
def afterOffset (s : List Char) : List Char :=
  match s with
  | [] => []
  | c :: rest =>
    if c = 'Z' ∨ c = 'z' then rest
    else if c = '+' ∨ c = '-' then
      let after := do
        let (_, s) ← field? 2 0 23 rest
        let (_, s) ← field? 2 0 59 (← mark? ':' s)
        return s
      after.getD s
    else s

/-- A date, a time of day or both with or without an offset, and what follows it. -/
def time? (s : List Char) : Option (String × List Char) := do
  let rest ← match afterDate? s with
    | none => afterTimeOfDay? s
    | some rest =>
      match rest with
      | c :: more =>
        if c = 'T' ∨ c = 't' ∨ c = ' ' then
          some (((afterTimeOfDay? more).map afterOffset).getD rest)
        else some rest
      | [] => some rest
  return (String.ofList (s.take (s.length - rest.length)), rest)

/-- A number or a time, and what follows it. -/
def number? (s : List Char) : Option (Toml × List Char) :=
  ((time? s).map fun (t, rest) => (.time t, rest))
    <|> ((float? s).map fun (t, rest) => (.float t, rest))
    <|> ((integer? s).map fun (n, rest) => (.integer n, rest))

end DocSite.Toml
