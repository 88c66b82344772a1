import ControlPlane.Binary64.Basic

/-!
# Doubles from decimal digits

`Binary64.ofDecimal?` makes a double of digits and a power of ten. The digits are rounded to a
double, and so is every product or quotient that scales it. A result may therefore lie a unit or two
in the last place from the double that is nearest to the decimal.
-/

namespace ControlPlane.Binary64

/-- The exponent of the greatest power of ten among the finite doubles. -/
def maxTenExponent : Nat := 308

/-- The double nearest to `10 ^ n`. -/
def powerOfTen (n : Nat) : Binary64 := ofNat (Nat.pow 10 n)

/-- Divides by the greatest power of ten so many times, or until nothing is left. -/
def divideDown : (times : Nat) → Binary64 → Binary64
  | 0, x => x
  | n + 1, x => if x.isZero then x else divideDown n (x.div (powerOfTen maxTenExponent))

/-- `x · 10 ^ e` for a finite `x`, and none when that lies beyond the finite doubles. -/
def scaleByTen? (x : Binary64) (e : Int) : Option Binary64 :=
  if x.isZero then some x
  else if e < 0 then
    let n := e.natAbs
    some ((divideDown (n / maxTenExponent) x).div (powerOfTen (n % maxTenExponent)))
  else if (maxTenExponent : Int) < e then none
  else
    let y := x.mul (powerOfTen e.toNat)
    if y.isFinite then some y else none

/-- `± m · 10 ^ e`, and none when that lies beyond the finite doubles. -/
def ofDecimal? (negative : Bool) (m : Nat) (e : Int) : Option Binary64 :=
  ((ofNat m).scaleByTen? e).map fun x => ofMagnitude negative x.magnitude

end ControlPlane.Binary64
