import DocSite.Number.Binary64

/-!
# Decimal texts of binary64 numbers

* `shortest` finds the decimal with the fewest digits among those that round to the number, and of
  these the nearest one: for one digit, two digits and so on it tries the two neighbours of the
  number on the grid of decimals with so many digits.
* `shortestText` writes it: positional below `10 ^ 16`, with a point and at least one place.
* `placesText` writes the number with a fixed count of places, rounded once from its exact value.
-/

namespace DocSite.Number

/-! ### Shortest digits -/

/-- The decimal `digits · 10 ^ exponent`. -/
structure Decimal where
  digits : Nat
  exponent : Int
deriving DecidableEq, Repr

/-- The decimal as a fraction. -/
def Decimal.ratio (d : Decimal) : Nat × Nat :=
  (d.digits * Nat.pow 10 d.exponent.toNat, Nat.pow 10 (-d.exponent).toNat)

namespace Binary64

/-- Whether a fraction lies between the neighbours' midpoints around the number; the midpoints
belong to the number when its significand is even. -/
def rounds (a : Binary64) (x : Nat × Nat) : Bool :=
  -- in quarters of the last binary place
  let scale := Nat.pow 2 (2 - a.exponent).toNat
  let unscale := Nat.pow 2 (a.exponent - 2).toNat
  let lo := if a.significand = Nat.pow 2 52 then 4 * a.significand - 1 else 4 * a.significand - 2
  let hi := 4 * a.significand + 2
  let left := lo * unscale * x.2
  let right := hi * unscale * x.2
  let mid := x.1 * scale
  if a.significand % 2 = 0 then left ≤ mid && mid ≤ right else left < mid && mid < right

/-- The greatest `k` with `10 ^ k` at most `num / den`, sought downwards from a bound. -/
def magnitude (num den : Nat) : Nat → Int
  | 0 => -400
  | fuel + 1 =>
    let k : Int := (fuel : Int) - 400
    if den * Nat.pow 10 k.toNat ≤ num * Nat.pow 10 (-k).toNat then k else magnitude num den fuel

/-- The candidates with `n` digits: the neighbours of the number on their grid that round to it,
the nearer one first. -/
def candidates (a : Binary64) (size : Int) (n : Nat) : List Decimal :=
  let (num, den) := a.ratio
  let e := size - (n : Int) + 1
  let num := num * Nat.pow 10 (-e).toNat
  let den := den * Nat.pow 10 e.toNat
  let q := num / den
  let near := roundEven num den
  let far := if near = q then q + 1 else q
  ([near, far].map (Decimal.mk · e)).filter fun d => a.rounds d.ratio

/-- The decimal of the fewest digits that rounds to a positive number. -/
def shortest (a : Binary64) : Decimal :=
  let (num, den) := a.ratio
  let size := magnitude num den 800
  ((List.range' 1 17).flatMap (a.candidates size)).headD ⟨a.significand, 0⟩

end Binary64

/-! ### Texts -/

/-- Digits and an exponent without trailing zeros in the digits. -/
def Decimal.trim : Nat → Decimal → Decimal
  | 0, d => d
  | fuel + 1, d =>
    if d.digits ≠ 0 ∧ d.digits % 10 = 0 then trim fuel ⟨d.digits / 10, d.exponent + 1⟩ else d

/-- A positional decimal with a point and at least one place, or one with an exponent from
`10 ^ 16` on and below a hundred-thousandth. -/
def Decimal.text (d : Decimal) : List Char :=
  let d := d.trim 400
  let ds := (toString d.digits).toList
  let point : Int := ds.length + d.exponent
  if 0 ≤ d.exponent ∧ point ≤ 16 then
    ds ++ List.replicate d.exponent.toNat '0' ++ ['.', '0']
  else if 0 < point ∧ point ≤ 16 then
    ds.take point.toNat ++ '.' :: ds.drop point.toNat
  else if -5 < point ∧ point ≤ 0 then
    '0' :: '.' :: List.replicate (-point).toNat '0' ++ ds
  else
    let tail := ds.drop 1
    ds.take 1 ++ (if tail.isEmpty then [] else '.' :: tail) ++ 'e' :: (toString (point - 1)).toList

namespace Binary64

/-- The shortest decimal text that reads back as the number. -/
def shortestText (a : Binary64) : String :=
  if a.significand = 0 then "0.0" else String.ofList a.shortest.text

/-- The number rounded to `places` decimal places. -/
def placesText (places : Nat) (a : Binary64) : String :=
  let (num, den) := a.ratio
  let n := roundEven (num * Nat.pow 10 places) den
  let ds := (toString n).toList
  let ds := List.replicate (places + 1 - ds.length) '0' ++ ds
  let whole := ds.length - places
  String.ofList (ds.take whole ++ (if places = 0 then [] else '.' :: ds.drop whole))

end Binary64

end DocSite.Number
