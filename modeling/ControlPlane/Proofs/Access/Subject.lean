import ControlPlane.Access.Subject
import Mathlib.Data.Finset.Card
import Mathlib.Data.List.Induction
import Mathlib.Data.List.Nodup

/-!
# Sets of subjects as lists

The subjects of a set are those that were added, each where it was added first. So the subjects of a
union are those of both sets one after the other without the repetitions, and the ones that are
filtered can be filtered before or after.
-/

namespace ControlPlane

section Repetitions

variable {α : Type} [DecidableEq α]

theorem eraseDups_concat (xs : List α) (a : α) :
    (xs ++ [a]).eraseDups = if a ∈ xs then xs.eraseDups else xs.eraseDups ++ [a] := by
  rw [List.eraseDups_append]
  by_cases ha : a ∈ xs <;> simp [List.removeAll, ha, List.eraseDups_cons]

theorem nodup_eraseDups (xs : List α) : xs.eraseDups.Nodup := by
  induction xs using List.reverseRecOn with
  | nil => simp
  | append_singleton xs a ih =>
    rw [eraseDups_concat]
    split
    · exact ih
    · next ha =>
      refine List.nodup_append.2 ⟨ih, by simp, fun b hb c hc hbc => ha ?_⟩
      rw [← List.mem_singleton.1 hc, ← hbc]
      exact List.mem_eraseDups.1 hb

theorem eraseDups_of_nodup {xs : List α} (h : xs.Nodup) : xs.eraseDups = xs := by
  induction xs using List.reverseRecOn with
  | nil => simp
  | append_singleton xs a ih =>
    obtain ⟨hxs, -, hdisjoint⟩ := List.nodup_append.1 h
    rw [eraseDups_concat, if_neg fun ha => hdisjoint a ha a (by simp) rfl, ih hxs]

@[simp] theorem eraseDups_eraseDups (xs : List α) : xs.eraseDups.eraseDups = xs.eraseDups :=
  eraseDups_of_nodup (nodup_eraseDups xs)

theorem eraseDups_filter (p : α → Bool) (xs : List α) :
    (xs.filter p).eraseDups = xs.eraseDups.filter p := by
  induction xs using List.reverseRecOn with
  | nil => simp
  | append_singleton xs a ih =>
    rw [List.filter_append, eraseDups_concat]
    by_cases hp : p a = true
    · rw [List.filter_singleton, hp, cond_true, eraseDups_concat, ih]
      by_cases ha : a ∈ xs <;> simp [ha, hp]
    · by_cases ha : a ∈ xs <;> simp [ha, hp, ih]

/-- Repetitions in the first of two lists can be left out before the two are put together. -/
theorem eraseDups_append_left (xs ys : List α) :
    (xs.eraseDups ++ ys).eraseDups = (xs ++ ys).eraseDups := by
  simp [List.eraseDups_append, List.removeAll]

/-- Repetitions in the second of two lists can be left out before the two are put together. -/
theorem eraseDups_append_right (xs ys : List α) :
    (xs ++ ys.eraseDups).eraseDups = (xs ++ ys).eraseDups := by
  simp [List.eraseDups_append, List.removeAll, ← eraseDups_filter]

/-- Lists that have nothing in common repeat nothing of each other. -/
theorem eraseDups_append_of_disjoint {xs ys : List α} (h : ∀ a ∈ ys, a ∉ xs) :
    (xs ++ ys).eraseDups = xs.eraseDups ++ ys.eraseDups := by
  have hys : ys.removeAll xs = ys := List.filter_eq_self.2 (by simpa using h)
  rw [List.eraseDups_append, hys]

theorem eraseDups_map {β : Type} [DecidableEq β] {f : α → β} (hf : Function.Injective f)
    (xs : List α) : (xs.map f).eraseDups = xs.eraseDups.map f := by
  induction xs using List.reverseRecOn with
  | nil => simp
  | append_singleton xs a ih =>
    have hmem : f a ∈ xs.map f ↔ a ∈ xs := List.mem_map_of_injective hf
    rw [List.map_append, List.map_singleton, eraseDups_concat, eraseDups_concat]
    by_cases ha : a ∈ xs
    · rw [if_pos (hmem.2 ha), if_pos ha, ih]
    · rw [if_neg (mt hmem.1 ha), if_neg ha, ih, List.map_append, List.map_singleton]

/-- As many elements are left as there are distinct ones. -/
theorem length_eraseDups (xs : List α) : xs.eraseDups.length = xs.toFinset.card := by
  rw [← List.toFinset_card_of_nodup (nodup_eraseDups xs)]
  congr 1
  ext a
  simp

end Repetitions

namespace SubjectSet

variable {s t : SubjectSet}

theorem eraseDups_subjects (s : SubjectSet) : s.subjects.eraseDups = s.subjects :=
  eraseDups_of_nodup s.nodup

theorem subjects_add (s : SubjectSet) (x : Subject) :
    (s.add x).subjects = (s.subjects ++ [x]).eraseDups := by
  rw [eraseDups_concat, eraseDups_subjects, add]
  split <;> rfl

theorem subjects_addAll (s : SubjectSet) (xs : List Subject) :
    (s.addAll xs).subjects = (s.subjects ++ xs).eraseDups := by
  induction xs generalizing s with
  | nil => simp [addAll, eraseDups_subjects]
  | cons x xs ih =>
    show ((s.add x).addAll xs).subjects = _
    rw [ih, subjects_add, eraseDups_append_left, List.append_assoc, List.singleton_append]

@[simp] theorem subjects_union (s t : SubjectSet) :
    (s.union t).subjects = (s.subjects ++ t.subjects).eraseDups :=
  subjects_addAll s t.subjects

@[simp] theorem subjects_ofList (xs : List Subject) : (ofList xs).subjects = xs.eraseDups :=
  subjects_addAll empty xs

@[simp] theorem subjects_ofNames (users groups : List String) :
    (ofNames users groups).subjects =
      (users.map Subject.ofUser ++ groups.map Subject.ofGroup).eraseDups :=
  subjects_addAll empty _

@[simp] theorem subjects_intersection (s t : SubjectSet) :
    (s.intersection t).subjects = s.subjects.filter (· ∈ t.subjects) := by
  show s.subjects.filter (fun x => t.subjects.contains x) = _
  simp

@[simp] theorem subjects_difference (s t : SubjectSet) :
    (s.difference t).subjects = s.subjects.filter (· ∉ t.subjects) := by
  show s.subjects.filter (fun x => !t.subjects.contains x) = _
  simp

end SubjectSet

end ControlPlane
