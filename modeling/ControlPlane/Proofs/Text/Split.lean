import Mathlib.Data.List.TakeWhile

/-!
# Splitting texts

A text is split at the first place of a character, and put together again from what is before and
after it.
-/

namespace ControlPlane.Text

variable {c d : Char} {cs before after : List Char}

theorem takeWhile_ne_append (h : c ∉ before) (after : List Char) :
    (before ++ c :: after).takeWhile (· ≠ c) = before := by
  have hbefore : ∀ d ∈ before, decide (d ≠ c) = true := fun d hd =>
    decide_eq_true fun heq => h (heq ▸ hd)
  rw [List.takeWhile_append_of_pos hbefore]
  simp

theorem dropWhile_ne_append (h : c ∉ before) (after : List Char) :
    (before ++ c :: after).dropWhile (· ≠ c) = c :: after := by
  have hbefore : ∀ d ∈ before, decide (d ≠ c) = true := fun d hd =>
    decide_eq_true fun heq => h (heq ▸ hd)
  rw [List.dropWhile_append_of_pos hbefore]
  simp

/-- What is left after the characters before it starts with the character itself. -/
theorem eq_append_of_dropWhile_ne (h : cs.dropWhile (· ≠ c) = d :: after) :
    cs = cs.takeWhile (· ≠ c) ++ c :: after := by
  have hd : d = c := by
    have hhead := List.head?_dropWhile_not (fun d => decide (d ≠ c)) cs
    rw [h] at hhead
    simpa using hhead
  rw [← hd, ← h, hd, List.takeWhile_append_dropWhile]

end ControlPlane.Text
