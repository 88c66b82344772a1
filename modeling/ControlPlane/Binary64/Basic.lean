import ControlPlane.Binary64.Rounding

/-!
# Double-precision numbers

A double is kept as its 64 bits. `Binary64.parts` reads a finite one as
`± significand · 2 ^ exponent`, and `Binary64.ofRatio` is the double nearest to a quotient.
Products, quotients and sums are the doubles nearest to the exact ones.
-/

namespace ControlPlane

structure Binary64 where
  bits : UInt64
deriving DecidableEq, Inhabited

namespace Binary64

/-- A finite double as `significand · 2 ^ exponent` with a sign. -/
structure Parts where
  negative : Bool
  significand : Nat
  exponent : Int

/-- The bit for the sign, above all others. -/
def signBit : Nat := 0x8000000000000000

/-- The highest bit of a significand of 53 bits, which is not stored. The bits above those of the
significand are the exponent. -/
def hiddenBit : Nat := 0x10000000000000

/-- The bits but for the sign. They are in the order of the numbers. -/
def magnitude (x : Binary64) : Nat := x.bits.toNat % signBit

def isNegative (x : Binary64) : Bool := signBit ≤ x.bits.toNat

/-- The magnitude of infinity. Greater ones are those of what is not a number. -/
def infinite : Nat := 2047 * hiddenBit

def isZero (x : Binary64) : Bool := x.magnitude = 0

def isFinite (x : Binary64) : Bool := x.magnitude < infinite

def isNaN (x : Binary64) : Bool := infinite < x.magnitude

def ofMagnitude (negative : Bool) (n : Nat) : Binary64 :=
  ⟨.ofNat (if negative then n + signBit else n)⟩

/-- A value that is not a number. -/
def nan : Binary64 := ofMagnitude false (infinite + 1)

/-- Subnormal numbers have no hidden bit and share the exponent of the least normal ones. -/
def parts (x : Binary64) : Parts :=
  let fraction : Nat := x.magnitude % hiddenBit
  let biased : Nat := x.magnitude / hiddenBit
  { negative := x.isNegative
    significand := if biased = 0 then fraction else fraction + hiddenBit
    exponent := if biased = 0 then -1074 else (biased : Int) - 1075 }

/-- The greatest `k` with `2 ^ k ≤ num / den`. -/
def floorLog2 (num den : Nat) : Int :=
  let k : Int := (num.log2 : Int) - (den.log2 : Int)
  if den <<< k.toNat ≤ num <<< (-k).toNat then k else k - 1

/-- The double nearest to `± num / den`; of two the one with an even significand. Beyond the finite
doubles it is infinity. A significand of 53 bits carries its highest bit into the exponent. -/
def ofRatio (negative : Bool) (num den : Nat) : Binary64 :=
  if num = 0 then ofMagnitude negative 0
  else
    let q := max (floorLog2 num den - 52) (-1074)
    let m := roundDiv (num <<< (-q).toNat) (den <<< q.toNat)
    ofMagnitude negative (min ((q + 1074).toNat * hiddenBit + m) infinite)

/-- The double nearest to `± m · 2 ^ e`. -/
def ofScaled (negative : Bool) (m : Nat) (e : Int) : Binary64 :=
  ofRatio negative (m <<< e.toNat) (1 <<< (-e).toNat)

def ofNat (n : Nat) : Binary64 := ofRatio false n 1

def ofInt (n : Int) : Binary64 := ofRatio (n < 0) n.natAbs 1

def mul (x y : Binary64) : Binary64 :=
  let negative := x.isNegative != y.isNegative
  if x.isFinite && y.isFinite then
    let p := x.parts
    let q := y.parts
    ofScaled negative (p.significand * q.significand) (p.exponent + q.exponent)
  else if x.isNaN || y.isNaN || x.isZero || y.isZero then nan
  else ofMagnitude negative infinite

/-- The quotient of two finite numbers of which the second is not zero. -/
def div (x y : Binary64) : Binary64 :=
  let p := x.parts
  let q := y.parts
  let e := p.exponent - q.exponent
  ofRatio (x.isNegative != y.isNegative) (p.significand <<< e.toNat) (q.significand <<< (-e).toNat)

/-- The sum of two numbers that are finite and not negative. -/
def add (x y : Binary64) : Binary64 :=
  let p := x.parts
  let q := y.parts
  let e := min p.exponent q.exponent
  ofScaled false
    (p.significand <<< (p.exponent - e).toNat + q.significand <<< (q.exponent - e).toNat) e

/-- A number that is in the order of the doubles. -/
def orderKey (x : Binary64) : Int := if x.isNegative then -(x.magnitude : Int) else x.magnitude

/-- The lesser of two numbers; what is not a number does not count. -/
def least (x y : Binary64) : Binary64 :=
  if x.isNaN then y else if y.isNaN then x else if y.orderKey < x.orderKey then y else x

/-- Zero has two patterns that are one number; otherwise a number is its bits. -/
def same (a b : Binary64) : Bool := a == b || isZero a && isZero b

@[simp] theorem same_refl (a : Binary64) : same a a = true := by simp [same]

theorem same_symm {a b : Binary64} (h : same a b = true) : same b a = true := by
  simp only [same, Bool.or_eq_true, beq_iff_eq, Bool.and_eq_true] at h ⊢
  exact h.imp Eq.symm And.symm

end Binary64

end ControlPlane
