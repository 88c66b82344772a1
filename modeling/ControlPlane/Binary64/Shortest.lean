import ControlPlane.Binary64.Basic

/-!
# Shortest decimal digits

`shortest` gives the fewest decimal digits that round back to a positive double, and of those the
nearest to it. The double and the ends of the interval that rounds to it are compared with the
decimal grid in exact arithmetic.
-/

namespace ControlPlane.Binary64

/-- The decimal `digits · 10 ^ exponent`. -/
structure Decimal where
  digits : Nat
  exponent : Int

/-- A positive rational as a quotient of naturals. -/
structure Ratio where
  num : Nat
  den : Nat

namespace Ratio

def le (a b : Ratio) : Bool := a.num * b.den ≤ b.num * a.den

def lt (a b : Ratio) : Bool := a.num * b.den < b.num * a.den

/-- `m · 2 ^ q` -/
def ofBinary (m : Nat) (q : Int) : Ratio := ⟨m <<< q.toNat, 1 <<< (-q).toNat⟩

/-- `d · 10 ^ k` -/
def ofDecimal (d : Nat) (k : Int) : Ratio := ⟨d * Nat.pow 10 k.toNat, Nat.pow 10 (-k).toNat⟩

/-- The distance between `a` and `b`. -/
def dist (a b : Ratio) : Ratio :=
  let x := a.num * b.den
  let y := b.num * a.den
  ⟨(x - y) + (y - x), a.den * b.den⟩

/-- The greatest `e` with `10 ^ e ≤ a`. -/
def magnitude (a : Ratio) : Int :=
  if a.den ≤ a.num then ((Nat.toDigits 10 (a.num / a.den)).length : Int) - 1
  else
    match (List.range 400).find? fun j => a.den ≤ a.num * Nat.pow 10 j with
    | some j => -(j : Int)
    | none => -400

/-- The greatest multiple of `10 ^ k` that is at most `a`, in units of `10 ^ k`. -/
def floorAt (a : Ratio) (k : Int) : Nat :=
  a.num * Nat.pow 10 (-k).toNat / (a.den * Nat.pow 10 k.toNat)

end Ratio

/-- The interval of reals that round to a double, its ends included when the significand is even. -/
structure Interval where
  low : Ratio
  high : Ratio
  closed : Bool

def Interval.contains (i : Interval) (x : Ratio) : Bool :=
  if i.closed then i.low.le x && x.le i.high else i.low.lt x && x.lt i.high

/-- Below a power of two the neighbour is half as far away, except at the least exponent. -/
def Parts.interval (p : Parts) : Interval :=
  let m := p.significand
  let below := if m = hiddenBit ∧ -1074 < p.exponent then 4 * m - 1 else 4 * m - 2
  { low := .ofBinary below (p.exponent - 2)
    high := .ofBinary (4 * m + 2) (p.exponent - 2)
    closed := m % 2 = 0 }

/-- The grid point of `n` digits that lies in the interval, the nearer one if there are two. -/
def nearestOf (value : Ratio) (i : Interval) (n : Nat) : Option Decimal :=
  let k := value.magnitude - n + 1
  let d := value.floorAt k
  let lower := Ratio.ofDecimal d k
  let upper := Ratio.ofDecimal (d + 1) k
  match i.contains lower, i.contains upper with
  | false, false => none
  | true, false => some ⟨d, k⟩
  | false, true => some ⟨d + 1, k⟩
  | true, true =>
    let a := value.dist lower
    let b := value.dist upper
    if a.lt b || (a.le b && d % 2 = 0) then some ⟨d, k⟩ else some ⟨d + 1, k⟩

/-- The fewest digits that read back; seventeen always do. -/
def shortest (p : Parts) : Decimal :=
  let value := Ratio.ofBinary p.significand p.exponent
  let i := p.interval
  match (List.range 17).findSome? fun n => nearestOf value i (n + 1) with
  | some d => d
  | none => ⟨value.floorAt (value.magnitude - 16), value.magnitude - 16⟩

/-- Removes the zeros at the end of the digits; `fuel` bounds their number. -/
def Decimal.trim : Nat → Decimal → Decimal
  | 0, d => d
  | fuel + 1, d =>
    if d.digits % 10 = 0 ∧ d.digits ≠ 0 then trim fuel ⟨d.digits / 10, d.exponent + 1⟩ else d

/-- From 10⁻⁵ up to below 10¹⁶ the text is positional and has a point; elsewhere it is scientific,
with one digit before the point, no point after a single digit, and a sign before the exponent. -/
def Decimal.text (d : Decimal) : String :=
  let digits := Nat.repr d.digits
  let length : Int := digits.length
  let point := length + d.exponent
  if 0 ≤ d.exponent ∧ point ≤ 16 then
    digits ++ String.ofList (List.replicate d.exponent.toNat '0') ++ ".0"
  else if 0 < point ∧ point ≤ 16 then
    (digits.take point.toNat).toString ++ "." ++ (digits.drop point.toNat).toString
  else if -5 < point ∧ point ≤ 0 then
    "0." ++ String.ofList (List.replicate (-point).toNat '0') ++ digits
  else
    let mark := if 0 < point then "e+" else "e"
    let exponent := mark ++ toString (point - 1)
    if length = 1 then digits ++ exponent
    else (digits.take 1).toString ++ "." ++ (digits.drop 1).toString ++ exponent

/-- The text of a finite double. -/
def text (x : Binary64) : String :=
  let p := x.parts
  let sign := if p.negative then "-" else ""
  if p.significand = 0 then sign ++ "0.0"
  else sign ++ ((shortest p).trim 20).text

end ControlPlane.Binary64
