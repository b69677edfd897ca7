import DocSite.Number.RoundEven

/-!
# Binary64 numbers that are not negative

* `Binary64` holds a number `significand · 2 ^ exponent`; every number but zero has a significand of
  exactly 53 bits, so equal numbers are equal values.
* `nearest` rounds `m · 2 ^ e` to such a number, a half to the even significand. Sums and products
  are the exact ones, rounded. Exponents are not bounded: the numbers met here are zero or at least
  a tenth, and below `2 ^ 200`.
* `bits` is the IEEE 754 interchange format.
-/

namespace DocSite.Number

/-- The number `significand · 2 ^ exponent`. -/
structure Binary64 where
  significand : Nat
  exponent : Int
deriving DecidableEq, Repr

namespace Binary64

/-- The number zero. -/
def zero : Binary64 :=
  ⟨0, 0⟩

/-- The number nearest to `m · 2 ^ e`. -/
def nearest (m : Nat) (e : Int) : Binary64 :=
  if m = 0 then zero
  else if m.log2 ≤ 52 then ⟨m * Nat.pow 2 (52 - m.log2), e - (52 - m.log2 : Nat)⟩
  else
    let shift := m.log2 - 52
    let q := roundEven m (Nat.pow 2 shift)
    if q = Nat.pow 2 53 then ⟨Nat.pow 2 52, e + shift + 1⟩ else ⟨q, e + shift⟩

/-- The number nearest to a natural number. -/
def ofNat (n : Nat) : Binary64 :=
  nearest n 0

/-- The significands of two numbers at their smaller exponent, and that exponent. -/
def align (a b : Binary64) : Nat × Nat × Int :=
  let e := min a.exponent b.exponent
  (a.significand * Nat.pow 2 (a.exponent - e).toNat,
    b.significand * Nat.pow 2 (b.exponent - e).toNat, e)

/-- The rounded sum. -/
def add (a b : Binary64) : Binary64 :=
  let (m, n, e) := align a b
  nearest (m + n) e

/-- The rounded product. -/
def mul (a b : Binary64) : Binary64 :=
  nearest (a.significand * b.significand) (a.exponent + b.exponent)

/-- The order of the numbers. -/
def le (a b : Binary64) : Bool :=
  let (m, n, _) := align a b
  m ≤ n

/-- The number nearest to one tenth. -/
def tenth : Binary64 :=
  ⟨7205759403792794, -56⟩

/-- The 64 bits of the number: biased exponent, then the significand without its first bit. -/
def bits (a : Binary64) : Nat :=
  if a.significand = 0 then 0
  else (a.exponent + 1075).toNat * Nat.pow 2 52 + (a.significand - Nat.pow 2 52)

/-- The number as a fraction. -/
def ratio (a : Binary64) : Nat × Nat :=
  (a.significand * Nat.pow 2 a.exponent.toNat, Nat.pow 2 (-a.exponent).toNat)

end Binary64

end DocSite.Number
