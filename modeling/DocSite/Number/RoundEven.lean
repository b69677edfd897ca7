/-!
# Rounding a quotient to the nearest integer

* `roundEven` divides and takes the nearest integer; a half goes to the even neighbour.
-/

namespace DocSite.Number

/-- The integer nearest to `num / den`, the even one of two that are equally near. -/
def roundEven (num den : Nat) : Nat :=
  let q := num / den
  let r := num % den
  if 2 * r < den then q else if den < 2 * r then q + 1 else q + q % 2

end DocSite.Number
