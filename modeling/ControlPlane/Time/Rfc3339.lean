import ControlPlane.Text.Blank
import ControlPlane.Time.Instant

/-!
# Reading instants

`Instant.parse` reads a date, a `T`, `t` or blank, a time of day and an offset. Blanks may stand
before every number and around the separators, numbers may be shorter than usual, a year with a
sign may be longer, and digits of a second beyond the ninth are dropped.
-/

namespace ControlPlane.Instant

inductive ParseFault where
  | outOfRange
  | impossible
  | invalid
  | tooShort
  | tooLong
deriving DecidableEq

def ParseFault.message : ParseFault → String
  | .outOfRange => "input is out of range"
  | .impossible => "no possible date and time matching input"
  | .invalid => "input contains invalid characters"
  | .tooShort => "premature end of input"
  | .tooLong => "trailing input"

def isDigit (c : Char) : Bool := '0' ≤ c && c ≤ '9'

def digitValue (c : Char) : Nat := c.toNat - '0'.toNat

/-- The greatest number that can be read. -/
def maxNumber : Nat := 0x7FFFFFFFFFFFFFFF

/-- At most `width` digits after those of `acc`; without a width, as many as there are. -/
def takeNumber (acc : Nat) : (width : Option Nat) → List Char → Except ParseFault (Nat × List Char)
  | _, [] => .ok (acc, [])
  | width, c :: rest =>
    if width = some 0 ∨ ¬ isDigit c then .ok (acc, c :: rest)
    else if maxNumber < acc * 10 + digitValue c then .error .outOfRange
    else takeNumber (acc * 10 + digitValue c) (width.map (· - 1)) rest

/-- A number of at least one digit. -/
def number (width : Option Nat) (cs : List Char) : Except ParseFault (Nat × List Char) :=
  match cs with
  | [] => .error .tooShort
  | c :: _ => if isDigit c then takeNumber 0 width cs else .error .invalid

/-- A number in `low`–`high` of at most two digits, after blanks. -/
def field (low high : Nat) (cs : List Char) : Except ParseFault (Nat × List Char) := do
  let (n, cs) ← number (some 2) (Text.trimStart cs)
  if low ≤ n ∧ n ≤ high then return (n, cs) else throw .outOfRange

/-- The character `c`, after blanks. -/
def separator (c : Char) (cs : List Char) : Except ParseFault (List Char) :=
  match Text.trimStart cs with
  | [] => .error .tooShort
  | d :: rest => if d = c then .ok rest else .error .invalid

/-- Four digits, or a sign and any number of them. -/
def year (cs : List Char) : Except ParseFault (Int × List Char) := do
  let (y, cs) ← (match Text.trimStart cs with
    | '-' :: rest => do
      let (n, cs) ← number none rest
      return (-(n : Int), cs)
    | '+' :: rest => do
      let (n, cs) ← number none rest
      return ((n : Int), cs)
    | cs => do
      let (n, cs) ← number (some 4) cs
      return ((n : Int), cs) : Except ParseFault (Int × List Char))
  if -0x80000000 ≤ y ∧ y < 0x80000000 then return (y, cs) else throw .outOfRange

/-- The part of a second, in nanoseconds. -/
def fraction (cs : List Char) : Except ParseFault (Nat × List Char) :=
  match cs with
  | '.' :: rest => do
    let (n, left) ← number (some 9) rest
    return (n * Nat.pow 10 (9 - (rest.length - left.length)), left.dropWhile isDigit)
  | _ => .ok (0, cs)

/-- Two digits, the first of which is at most `top`. -/
def twoDigits (top : Char) (cs : List Char) : Except ParseFault (Nat × List Char) :=
  match cs with
  | a :: b :: rest =>
    if isDigit a ∧ isDigit b then
      if a ≤ top then .ok (digitValue a * 10 + digitValue b, rest) else .error .outOfRange
    else .error .invalid
  | [a] => if 2 ≤ a.utf8Size then .error .invalid else .error .tooShort
  | [] => .error .tooShort

/-- `UTC` in any case of its letters. -/
def isUtc : List Char → Bool
  | a :: b :: c :: _ => a.toLower = 'u' && b.toLower = 't' && c.toLower = 'c'
  | _ => false

/-- The offset from universal time in seconds. -/
def offset (cs : List Char) : Except ParseFault (Int × List Char) :=
  if isUtc cs then .ok (0, cs.drop 3)
  else
    match cs with
    | [] => .error .tooShort
    | c :: rest =>
      if c = 'Z' ∨ c = 'z' then .ok (0, rest)
      else if c = '+' ∨ c = '-' ∨ c.toNat = 0x2212 then do
        let (hours, rest) ← twoDigits '9' rest
        let (minutes, rest) ← twoDigits '5' (rest.dropWhile fun c => c = ':' || Text.isBlank c)
        let seconds : Int := hours * 3600 + minutes * 60
        return (if c = '+' then seconds else -seconds, rest)
      else .error .invalid

/-- The first and the last day that there is, as days since 1970-01-01. -/
def minDay : Int := Date.toDays ⟨-262143, 1, 1⟩
def maxDay : Int := Date.toDays ⟨262142, 12, 31⟩

def isDayInRange (n : Int) : Bool := minDay ≤ n && n ≤ maxDay

/-- Reads an instant; the whole text has to be used up. -/
def parseChars (cs : List Char) : Except ParseFault Instant := do
  let (y, cs) ← year cs
  let cs ← separator '-' cs
  let (month, cs) ← field 1 12 cs
  let cs ← separator '-' cs
  let (day, cs) ← field 1 31 cs
  let cs ← (match cs with
    | [] => throw .tooShort
    | c :: rest => if c = 'T' ∨ c = 't' ∨ c = ' ' then return rest else throw .invalid)
  let (hour, cs) ← field 0 23 cs
  let cs ← separator ':' cs
  let (minute, cs) ← field 0 59 cs
  let cs ← separator ':' cs
  let (second, cs) ← field 0 60 cs
  let (nanos, cs) ← fraction cs
  let (east, cs) ← offset (Text.trimStart cs)
  if ¬ (Text.trimStart cs).isEmpty then throw .tooLong
  let date : Date := ⟨y, month, day⟩
  if ¬ date.isValid ∨ ¬ isDayInRange date.toDays then throw .outOfRange
  if 86400 ≤ east.natAbs then throw .outOfRange
  let leap := second = 60
  let local_ : Int :=
    date.toDays * 86400 + (hour * 3600 + minute * 60 + (if leap then 59 else second) : Nat)
  let seconds := local_ - east
  if ¬ isDayInRange (seconds / 86400) then throw .impossible
  return ⟨seconds, if leap then nanos + 1000000000 else nanos⟩

def parse (text : String) : Except ParseFault Instant := parseChars text.toList

end ControlPlane.Instant
