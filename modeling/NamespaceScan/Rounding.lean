/-!
# Rounding

A quotient of natural numbers, rounded to the nearest number. Exactly between
two numbers, the even one is taken.
-/

namespace NamespaceScan

/-- A quotient rounded to the nearest number, a half to the even one. -/
def roundedQuotient (n d : Nat) : Nat :=
  let q := n / d
  let twice := 2 * (n % d)
  if d < twice ∨ (twice = d ∧ q % 2 = 1) then q + 1 else q

end NamespaceScan
