import ControlPlane.Proofs.Binary64
import ControlPlane.Retry
import Mathlib.Algebra.Order.Ring.Nat
import Mathlib.Data.List.DropRight

/-!
# Counted failures

A failure of a key is counted for that key alone, and forgotten for it alone. Delays double from
five seconds to five minutes. They have come there long before the counter is at its end, so that
the failures that it does not count would make no difference.
-/

namespace ControlPlane

/-- How often something was counted in the past, since it was cleared last. -/
def countSince {α : Type} (clears counts : α → Bool) (past : List α) : Nat :=
  (past.rtakeWhile fun a => !clears a).countP counts

theorem countSince_concat {α : Type} (clears counts : α → Bool) (past : List α) (a : α) :
    countSince clears counts (past ++ [a]) =
      if clears a then 0 else countSince clears counts past + if counts a then 1 else 0 := by
  unfold countSince
  rw [List.rtakeWhile_concat]
  cases clears a <;> simp [List.countP_append, List.countP_singleton]

/-! ### Delays of any shape -/

namespace RetryConfig

theorem isNegative_powAux {fuel n : Nat} {base acc : Binary64} (hbase : base.isNegative = false)
    (hacc : acc.isNegative = false) : (powAux fuel n base acc).isNegative = false := by
  induction fuel generalizing n base acc with
  | zero => exact hacc
  | succ fuel ih =>
    have hnext : (if n % 2 = 1 then acc.mul base else acc).isNegative = false := by
      split
      · exact Binary64.isNegative_mul hacc hbase
      · exact hacc
    rw [powAux]
    split
    · exact hnext
    · exact ih (Binary64.isNegative_mul hbase hbase) hnext

/-- Where delays do not shrink below nothing and have a ceiling there is one after every failure. -/
theorem isSome_delayFor {c : RetryConfig} (hfactor : c.multiplier.isNegative = false)
    (hceiling : c.maxDelay.toBinary64.isFinite = true) (n : Nat) : (c.delayFor n).isSome := by
  have hgrowth : (pow c.multiplier (min (n - 1) maxExponent)).isNegative = false :=
    isNegative_powAux hfactor (Binary64.isNegative_ofRatio ..)
  obtain ⟨hnegative, hfinite⟩ := Binary64.least_of_finite
    (Binary64.isNegative_mul c.initialDelay.isNegative_toBinary64 hgrowth)
    c.maxDelay.isNegative_toBinary64 hceiling
  exact Duration.isSome_ofBinary64? hnegative hfinite

end RetryConfig

/-! ### Attempts -/

/-- An attempt that fails is followed by a pause and a further attempt, unless it is the last. -/
theorem retrying_succ {m : Type → Type} [Monad m] {ε α : Type} (c : RetryConfig)
    (operation : m (Except ε α)) (pause : Duration → m Unit) (fuel attempt : Nat) :
    retrying c operation pause (fuel + 1) attempt = (do
      match ← operation with
      | .ok a => return .done (.ok a)
      | .error e =>
        if c.isLast attempt then return .done (.error e)
        else
          match c.delayFor attempt with
          | none => return .undefinedDelay
          | some d =>
            pause d
            retrying c operation pause fuel (attempt + 1)) :=
  -- The equations of `retrying` do not come about: they evaluate the delays in doubles.
  (rfl)

namespace Backoff

variable {b : Backoff} {k k' : String} {m n : Nat}

/-! ### Counts -/

theorem countOf_filter_self (l : List (String × Nat)) (k : String) :
    countOf (l.filter fun e => e.1 ≠ k) k = 0 := by
  induction l with
  | nil => rfl
  | cons e rest ih =>
    by_cases he : e.1 = k
    · simpa [he] using ih
    · simpa [he, countOf] using ih

theorem countOf_filter_of_ne (h : k' ≠ k) (l : List (String × Nat)) :
    countOf (l.filter fun e => e.1 ≠ k) k' = countOf l k' := by
  induction l with
  | nil => rfl
  | cons e rest ih =>
    by_cases he : e.1 = k
    · simpa [he, countOf, h.symm] using ih
    · simp only [ne_eq, decide_not] at ih
      simp [he, countOf, ih]

@[simp] theorem count_reset_self : (b.reset k).count k = 0 := countOf_filter_self _ _

theorem count_reset_of_ne (h : k' ≠ k) : (b.reset k).count k' = b.count k' :=
  countOf_filter_of_ne h _

@[simp] theorem count_fail_self : (b.fail k).count k = min (b.count k + 1) maxCount := by
  simp [fail, count, countOf]

theorem count_fail_of_ne (h : k' ≠ k) : (b.fail k).count k' = b.count k' := by
  have hreset : countOf (b.reset k).failures k' = countOf b.failures k' := count_reset_of_ne h
  simpa [fail, count, countOf, h.symm] using hreset

/-! ### Delays -/

/-- The delay after the `n`-th failure in a row. -/
def delay (n : Nat) : Duration := .ofSeconds (min (5 * 2 ^ (n - 1)) 300)

theorem delay_of_le (h : 7 ≤ n) : delay n = .ofSeconds 300 := by
  have hpow : 2 ^ 6 ≤ 2 ^ (n - 1) := Nat.pow_le_pow_right (by decide) (by omega)
  rw [delay, min_eq_right (by omega)]

theorem delay_mono (h : m ≤ n) : (delay m).nanos ≤ (delay n).nanos := by
  have hpow : 2 ^ (m - 1) ≤ 2 ^ (n - 1) := Nat.pow_le_pow_right (by decide) (by omega)
  simp only [delay, Duration.ofSeconds]
  omega

theorem delay_le (n : Nat) : (delay n).nanos ≤ (Duration.ofSeconds 300).nanos := by
  simp only [delay, Duration.ofSeconds]
  omega

theorem delay_min (n : Nat) : delay (min (n - 1) 32 + 1) = delay n := by
  by_cases hn : n - 1 ≤ 32
  · rw [min_eq_left hn]
    rfl
  · rw [delay_of_le (by omega), delay_of_le (by omega)]

/-- The doubles in which the delays are computed are exact. -/
theorem delayFor_standard (n : Nat) : standard.delayFor n = some (delay n) := by
  have htable : ∀ i < 33, standard.delayFor (i + 1) = some (delay (i + 1)) := by
    decide +kernel
  have hbound : standard.delayFor n = standard.delayFor (min (n - 1) 32 + 1) := by
    simp [RetryConfig.delayFor, RetryConfig.maxExponent]
  rw [hbound, htable _ (by omega), delay_min]

/-- At the end of the counter the delay is what it would be after any further failure. -/
theorem delay_min_maxCount (n : Nat) : delay (min n maxCount) = delay n := by
  by_cases hn : n ≤ maxCount
  · rw [min_eq_left hn]
  · unfold maxCount at *
    rw [delay_of_le (by omega), delay_of_le (by omega)]

end Backoff

end ControlPlane
