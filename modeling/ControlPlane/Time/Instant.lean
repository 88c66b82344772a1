import ControlPlane.Time.Calendar

/-!
# Instants

An instant is a second of universal time and a part of it in nanoseconds. A leap second is the
second before it with a part of a thousand million nanoseconds or more, so that instants are
ordered by their seconds and then by their parts.
-/

namespace ControlPlane

structure Instant where
  /-- Seconds since 1970-01-01T00:00:00Z. -/
  seconds : Int
  nanos : Nat
deriving DecidableEq, Inhabited

namespace Instant

/-- Earlier or equal. -/
def le (a b : Instant) : Bool :=
  a.seconds < b.seconds || (a.seconds == b.seconds && a.nanos ≤ b.nanos)

def ofSeconds (s : Int) : Instant := ⟨s, 0⟩

def addSeconds (t : Instant) (n : Nat) : Instant := { t with seconds := t.seconds + n }

/-- How many digits of a second are written. -/
inductive Precision where
  /-- None; the part of a second is dropped. -/
  | seconds
  /-- The fewest of none, three, six and nine that are exact. -/
  | exact

def padLeft (width : Nat) (n : Nat) : String :=
  let digits := Nat.repr n
  String.ofList (List.replicate (width - digits.length) '0') ++ digits

/-- A year of more than four digits, or before the year 0, has a sign. -/
def yearText (y : Int) : String :=
  if y < 0 then "-" ++ padLeft 4 y.natAbs
  else if y ≤ 9999 then padLeft 4 y.toNat
  else "+" ++ padLeft 4 y.toNat

def fractionText (precision : Precision) (nanos : Nat) : String :=
  match precision with
  | .seconds => ""
  | .exact =>
    if nanos = 0 then ""
    else if nanos % 1000000 = 0 then "." ++ padLeft 3 (nanos / 1000000)
    else if nanos % 1000 = 0 then "." ++ padLeft 6 (nanos / 1000)
    else "." ++ padLeft 9 nanos

/-- The instant as `YYYY-MM-DDTHH:MM:SSZ`. -/
def text (precision : Precision) (t : Instant) : String :=
  let date := Date.ofDays (t.seconds / 86400)
  let ofDay := (t.seconds % 86400).toNat
  let leap := 1000000000 ≤ t.nanos
  let second := ofDay % 60 + if leap then 1 else 0
  let nanos := if leap then t.nanos - 1000000000 else t.nanos
  yearText date.year ++ "-" ++ padLeft 2 date.month ++ "-" ++ padLeft 2 date.day ++ "T" ++
    padLeft 2 (ofDay / 3600) ++ ":" ++ padLeft 2 (ofDay / 60 % 60) ++ ":" ++ padLeft 2 second ++
    fractionText precision nanos ++ "Z"

end Instant

end ControlPlane
