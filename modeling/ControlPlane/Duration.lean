import ControlPlane.Binary64.Basic

/-!
# Durations

Lengths of time in whole nanoseconds.
-/

namespace ControlPlane

structure Duration where
  nanos : Nat
deriving DecidableEq, Inhabited

namespace Duration

def ofSeconds (n : Nat) : Duration := ⟨n * 1000000000⟩

def ofMillis (n : Nat) : Duration := ⟨n * 1000000⟩

/-- The whole seconds, and the nanoseconds beyond them. -/
def seconds (d : Duration) : Nat := d.nanos / 1000000000
def subsecond (d : Duration) : Nat := d.nanos % 1000000000

/-- The duration in seconds, rounded thrice: the whole seconds, the part of a second and the sum. -/
def toBinary64 (d : Duration) : Binary64 :=
  (Binary64.ofNat d.seconds).add (.ofRatio false d.subsecond 1000000000)

/-- The duration of this many seconds, to the nearest nanosecond. A negative number and one that is
not finite are no durations. -/
def ofBinary64? (x : Binary64) : Option Duration :=
  let p := x.parts
  if !x.isFinite || p.negative && p.significand ≠ 0 then none
  else
    let scaled := p.significand * 1000000000
    some ⟨roundDiv (scaled <<< p.exponent.toNat) (1 <<< (-p.exponent).toNat)⟩

end Duration

end ControlPlane
