/-!
# Rounding quotients

`divNearest` divides two naturals and rounds to the nearest natural; a quotient halfway between two
goes to the even one.
-/

namespace Goodput.Number

/-- The natural nearest to `num / den`, ties to even. -/
def divNearest (num den : Nat) : Nat :=
  let q := num / den
  let r := num % den
  if 2 * r < den then q
  else if den < 2 * r then q + 1
  else if q % 2 = 0 then q
  else q + 1

end Goodput.Number
