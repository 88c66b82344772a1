/-!
# Rounded quotients

`roundDiv` gives the natural number nearest to a quotient. A quotient half-way between two goes to
the even one.
-/

namespace ControlPlane

def roundDiv (num den : Nat) : Nat :=
  let q := num / den
  let r := num % den
  if 2 * r < den then q
  else if den < 2 * r then q + 1
  else if q % 2 = 0 then q
  else q + 1

end ControlPlane
