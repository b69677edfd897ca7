/-!
# Sets of code points

A property of characters is a table of code points. Two shapes occur: increasing disjoint ranges
(`inRanges`) and arithmetic progressions (`inProgressions`), which suit properties that alternate
from one code point to the next.
-/

namespace DocSite.Text

/-- Whether a character lies in one of the ranges, both ends included. -/
def inRanges (ranges : List (Nat × Nat)) (c : Char) : Bool :=
  ranges.any fun r => r.1 ≤ c.toNat && c.toNat ≤ r.2

/-- The code points `first`, `first + step`, and so on up to `last`. -/
structure Progression where
  first : Nat
  last : Nat
  step : Nat
deriving DecidableEq, Repr

/-- Whether a code point is a term of the progression. -/
def Progression.contains (p : Progression) (n : Nat) : Bool :=
  p.first ≤ n && n ≤ p.last && (n - p.first) % p.step == 0

/-- Whether a character is a term of one of the progressions. -/
def inProgressions (ps : List Progression) (c : Char) : Bool :=
  ps.any (·.contains c.toNat)

end DocSite.Text
