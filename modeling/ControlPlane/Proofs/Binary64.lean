import ControlPlane.Duration

/-!
# Numbers that are not negative

Products and sums of numbers that are not negative are not negative either, and the lesser of such a
number and a finite one is finite. Such numbers of seconds are durations.
-/

namespace ControlPlane

namespace Binary64

variable {x y : Binary64} {n : Nat}

theorem toNat_bits_ofMagnitude (negative : Bool) (h : n < signBit) :
    (ofMagnitude negative n).bits.toNat = if negative then n + signBit else n := by
  unfold ofMagnitude signBit at *
  cases negative
  · simp
    omega
  · simp
    omega

theorem isNegative_ofMagnitude (negative : Bool) (h : n < signBit) :
    (ofMagnitude negative n).isNegative = negative := by
  rw [isNegative, toNat_bits_ofMagnitude negative h]
  cases negative
  · simpa using h
  · simp

theorem infinite_succ_lt_signBit : infinite + 1 < signBit := by decide

/-- A quotient is infinite at most. -/
theorem exists_ofRatio (negative : Bool) (num den : Nat) :
    ∃ n ≤ infinite, ofRatio negative num den = ofMagnitude negative n := by
  unfold ofRatio
  split
  · exact ⟨0, Nat.zero_le _, rfl⟩
  · exact ⟨_, Nat.min_le_right _ _, rfl⟩

theorem isNegative_ofRatio (negative : Bool) (num den : Nat) :
    (ofRatio negative num den).isNegative = negative := by
  obtain ⟨n, hn, h⟩ := exists_ofRatio negative num den
  rw [h, isNegative_ofMagnitude negative (by have := infinite_succ_lt_signBit; omega)]

theorem isNegative_add (x y : Binary64) : (x.add y).isNegative = false := isNegative_ofRatio ..

theorem isNegative_mul (hx : x.isNegative = false) (hy : y.isNegative = false) :
    (x.mul y).isNegative = false := by
  have hinfinite := infinite_succ_lt_signBit
  unfold mul
  rw [hx, hy]
  dsimp only
  split
  · exact isNegative_ofRatio ..
  · split
    · exact isNegative_ofMagnitude false hinfinite
    · exact isNegative_ofMagnitude false (by omega)

theorem orderKey_of_not_negative (hx : x.isNegative = false) : x.orderKey = x.magnitude := by
  simp [orderKey, hx]

/-- The lesser of two numbers is not negative if neither is, and finite if the second is. -/
theorem least_of_finite (hx : x.isNegative = false) (hy : y.isNegative = false)
    (hfinite : y.isFinite = true) :
    (x.least y).isNegative = false ∧ (x.least y).isFinite = true := by
  have hbound : y.magnitude < infinite := by simpa [isFinite] using hfinite
  have hnumber : y.isNaN = false := by simpa [isNaN] using Nat.le_of_lt hbound
  unfold least
  rw [hnumber, orderKey_of_not_negative hx, orderKey_of_not_negative hy]
  split
  · exact ⟨hy, hfinite⟩
  · simp only [Bool.false_eq_true, if_false]
    split
    · exact ⟨hy, hfinite⟩
    · next hle =>
      refine ⟨hx, ?_⟩
      simp only [isFinite, decide_eq_true_eq]
      omega

end Binary64

namespace Duration

theorem isNegative_toBinary64 (d : Duration) : d.toBinary64.isNegative = false :=
  Binary64.isNegative_add ..

theorem isSome_ofBinary64? {x : Binary64} (hx : x.isNegative = false)
    (hfinite : x.isFinite = true) : (ofBinary64? x).isSome := by
  simp [ofBinary64?, Binary64.parts, hx, hfinite]

end Duration

end ControlPlane
