/-!
# Digits

* `digitValue` is the value of a decimal or hexadecimal digit, and `numberOf` the number that digits
  of a base up to sixteen write.
-/

namespace DocSite.Text

/-- A hexadecimal digit of either case. -/
def isHexDigit (c : Char) : Bool :=
  c.isDigit || ('a' ≤ c.toLower && c.toLower ≤ 'f')

/-- The value of a decimal or hexadecimal digit. -/
def digitValue (c : Char) : Nat :=
  if c.isDigit then c.toNat - 48 else c.toLower.toNat - 87

/-- The number that digits of a base write. -/
def numberOf (base : Nat) (ds : List Char) : Nat :=
  ds.foldl (fun n d => base * n + digitValue d) 0

end DocSite.Text
