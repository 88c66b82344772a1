import ControlPlane.Duration

/-!
# Retrying

After each failure the delay before the next attempt grows by a factor, up to a ceiling.
`Backoff` counts the failures of each key, and `retrying` repeats an operation in place.
-/

namespace ControlPlane

structure RetryConfig where
  /-- No limit when it is zero. -/
  maxAttempts : Nat := 0
  initialDelay : Duration := .ofMillis 100
  maxDelay : Duration := .ofSeconds 30
  multiplier : Binary64 := .ofNat 2

namespace RetryConfig

/-- `base ^ n` by repeated squaring; `acc` is what the lower bits of the exponent gave. Each round
halves `n`, so that `fuel` above its number of bits is not used up. -/
def powAux (fuel n : Nat) (base acc : Binary64) : Binary64 :=
  match fuel with
  | 0 => acc
  | fuel + 1 =>
    let acc := if n % 2 = 1 then acc.mul base else acc
    if n / 2 = 0 then acc else powAux fuel (n / 2) (base.mul base) acc

def pow (base : Binary64) (n : Nat) : Binary64 := powAux 64 n base (.ofNat 1)

/-- The failures from which on the delay stays the same. -/
def maxExponent : Nat := 32

/-- The delay after this many failures in a row; none when the factor makes it negative. -/
def delayFor (c : RetryConfig) (failures : Nat) : Option Duration :=
  let growth := pow c.multiplier (min (failures - 1) maxExponent)
  Duration.ofBinary64? ((c.initialDelay.toBinary64.mul growth).least c.maxDelay.toBinary64)

/-- Whether this attempt, counted from one, is the last. -/
def isLast (c : RetryConfig) (attempt : Nat) : Bool :=
  0 < c.maxAttempts && c.maxAttempts ≤ attempt

end RetryConfig

/-- What comes of retrying. -/
inductive Retried (ε α : Type) where
  | done (result : Except ε α)
  /-- The delay before the next attempt is no duration. -/
  | undefinedDelay
  /-- The attempts that were to be watched are used up. -/
  | unfinished

/-- Repeats `operation` until it succeeds or the last attempt fails, with a pause after every other
failure. At most `fuel` attempts are watched; as many as there may be are enough when their number
is limited. -/
def retrying {m : Type → Type} [Monad m] {ε α : Type} (c : RetryConfig)
    (operation : m (Except ε α)) (pause : Duration → m Unit) :
    (fuel attempt : Nat) → m (Retried ε α)
  | 0, _ => pure .unfinished
  | fuel + 1, attempt => do
    match ← operation with
    | .ok a => return .done (.ok a)
    | .error e =>
      if c.isLast attempt then return .done (.error e)
      else
        match c.delayFor attempt with
        | none => return .undefinedDelay
        | some d =>
          pause d
          retrying c operation pause fuel (attempt + 1)

/-- The failures of each key since it last succeeded. -/
structure Backoff where
  failures : List (String × Nat) := []

namespace Backoff

/-- The shape of the delays between reconciliations. -/
def standard : RetryConfig where
  initialDelay := .ofSeconds 5
  maxDelay := .ofSeconds 300

/-- The greatest count. -/
def maxCount : Nat := 0xFFFFFFFF

def countOf : List (String × Nat) → String → Nat
  | [], _ => 0
  | (k', n) :: rest, k => if k' = k then n else countOf rest k

/-- The failures counted for `k`. -/
def count (b : Backoff) (k : String) : Nat := countOf b.failures k

/-- Forgets the failures of `k`. -/
def reset (b : Backoff) (k : String) : Backoff where
  failures := b.failures.filter fun e => e.1 ≠ k

/-- Counts a failure of `k`. -/
def fail (b : Backoff) (k : String) : Backoff where
  failures := (k, min (b.count k + 1) maxCount) :: (b.reset k).failures

/-- Counts a failure of `k` and gives the delay that follows. -/
def next (c : RetryConfig) (b : Backoff) (k : String) : Option Duration × Backoff :=
  let b := b.fail k
  (c.delayFor (b.count k), b)

end Backoff

end ControlPlane
