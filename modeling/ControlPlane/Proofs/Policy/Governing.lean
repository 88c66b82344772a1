import ControlPlane.Policy.Governing

/-!
# The policy that governs

Objects are ordered by age, with their names to decide between those of one time. The policy that
governs is the oldest of the active ones, and the oldest of all while none is active.
-/

namespace ControlPlane

namespace Instant

theorem le_iff {a b : Instant} :
    a.le b = true ↔ a.seconds < b.seconds ∨ a.seconds = b.seconds ∧ a.nanos ≤ b.nanos := by
  simp [le]

theorem le_trans {a b c : Instant} (hab : a.le b = true) (hbc : b.le c = true) :
    a.le c = true := by
  rw [le_iff] at *
  omega

theorem le_total (a b : Instant) : a.le b = true ∨ b.le a = true := by
  rw [le_iff, le_iff]
  omega

theorem le_antisymm {a b : Instant} (hab : a.le b = true) (hba : b.le a = true) : a = b := by
  rw [le_iff] at hab hba
  cases a
  cases b
  simp only [mk.injEq]
  simp only at hab hba
  omega

end Instant

namespace Metadata

theorem noYoungerThan_total (a b : Metadata) :
    a.noYoungerThan b = true ∨ b.noYoungerThan a = true := by
  have hname := String.le_total a.anyName b.anyName
  unfold noYoungerThan
  cases a.creationTimestamp with
  | none => cases b.creationTimestamp <;> simp [hname]
  | some s =>
    cases b.creationTimestamp with
    | none => simp
    | some t =>
      by_cases h : s = t
      · simpa [h] using hname
      · simpa [h, Ne.symm h] using Instant.le_total s t

theorem noYoungerThan_refl (a : Metadata) : a.noYoungerThan a = true :=
  (noYoungerThan_total a a).elim id id

theorem noYoungerThan_trans {a b c : Metadata} (hab : a.noYoungerThan b = true)
    (hbc : b.noYoungerThan c = true) : a.noYoungerThan c = true := by
  have hname := fun h h' =>
    @String.le_trans a.anyName b.anyName c.anyName h h'
  unfold noYoungerThan at *
  cases ha : a.creationTimestamp <;> cases hb : b.creationTimestamp <;>
    cases hc : c.creationTimestamp <;> simp_all only [Bool.false_eq_true, decide_eq_true_eq,
      forall_const]
  case some.some.some s t u =>
    by_cases hst : s = t
    · by_cases htu : t = u <;> simp_all
    · by_cases htu : t = u
      · simp_all
      · simp only [hst, htu, if_false] at hab hbc
        have hsu : s ≠ u := fun h => hst (Instant.le_antisymm hab (h ▸ hbc))
        simpa [hsu] using Instant.le_trans hab hbc

/-- Things that are sorted by the age of objects stand in that order. -/
theorem pairwise_sort {α : Type} (f : α → Metadata) (xs : List α) :
    (xs.mergeSort fun a b => (f a).noYoungerThan (f b)).Pairwise fun a b =>
      (f a).noYoungerThan (f b) = true := by
  refine List.pairwise_mergeSort (fun a b c => ?_) (fun a b => ?_) xs
  · exact noYoungerThan_trans
  · exact Bool.or_eq_true_iff.2 (noYoungerThan_total (f a) (f b))

/-- Objects of different names are of different age. -/
theorem anyName_eq_of_noYoungerThan {a b : Metadata} (hab : a.noYoungerThan b = true)
    (hba : b.noYoungerThan a = true) : a.anyName = b.anyName := by
  have hname := fun h h' => @String.le_antisymm a.anyName b.anyName h h'
  unfold noYoungerThan at *
  cases ha : a.creationTimestamp <;> cases hb : b.creationTimestamp <;> simp_all
  case some.some s t =>
    by_cases hst : s = t
    · simp_all
    · simp only [hst, Ne.symm hst, if_false] at hab hba
      exact absurd (Instant.le_antisymm hab hba) hst

end Metadata

namespace Policy

/-- No policy among `policies` is older. -/
def Oldest (policies : List Policy) (p : Policy) : Prop :=
  p ∈ policies ∧ ∀ q ∈ policies, p.metadata.noYoungerThan q.metadata = true

/-- The oldest active policy governs, the oldest of all while none is active, and none where there
is none. -/
def Governs (policies : List Policy) : Option Policy → Prop
  | none => policies = []
  | some p =>
    Oldest (policies.filter (·.isActive)) p ∨
      (∀ q ∈ policies, q.isActive = false) ∧ Oldest policies p

theorem pairwise_sort (policies : List Policy) :
    (sort policies).Pairwise fun p q => p.metadata.noYoungerThan q.metadata = true :=
  Metadata.pairwise_sort (·.metadata) policies

@[simp] theorem mem_sort {policies : List Policy} {p : Policy} : p ∈ sort policies ↔ p ∈ policies :=
  List.mem_mergeSort

theorem oldest_head {p : Policy} {rest : List Policy}
    (h : (p :: rest).Pairwise fun p q => p.metadata.noYoungerThan q.metadata = true) :
    Oldest (p :: rest) p := by
  refine ⟨List.mem_cons_self, ?_⟩
  intro q hq
  rcases List.mem_cons.1 hq with rfl | hq
  · exact Metadata.noYoungerThan_refl _
  · exact (List.pairwise_cons.1 h).1 q hq

/-- Of policies by age the first active one is the oldest active one. -/
theorem oldest_find {policies : List Policy} {p : Policy}
    (h : policies.Pairwise fun p q => p.metadata.noYoungerThan q.metadata = true)
    (hf : policies.find? (·.isActive) = some p) : Oldest (policies.filter (·.isActive)) p := by
  have hsorted := List.Pairwise.filter (·.isActive) h
  rw [← List.head?_filter] at hf
  obtain ⟨rest, hrest⟩ := List.head?_eq_some_iff.1 hf
  rw [hrest] at hsorted ⊢
  exact oldest_head hsorted

theorem governs_governing (policies : List Policy) : Governs policies (governing? policies) := by
  have hsorted := pairwise_sort policies
  show Governs policies (((sort policies).find? (·.isActive)).or (sort policies).head?)
  cases hf : (sort policies).find? (·.isActive) with
  | some p =>
    obtain ⟨hmem, hold⟩ := oldest_find hsorted hf
    refine Or.inl ⟨?_, fun q hq => hold q ?_⟩
    · simpa using hmem
    · simpa using hq
  | none =>
    have hinactive : ∀ q ∈ policies, q.isActive = false := fun q hq => by
      simpa using List.find?_eq_none.1 hf q (mem_sort.2 hq)
    rw [Option.none_or]
    cases hs : sort policies with
    | nil =>
      have : policies = [] := List.eq_nil_iff_forall_not_mem.2 fun q hq => by
        simpa [hs] using mem_sort.2 hq
      simpa [Governs] using this
    | cons p rest =>
      rw [hs] at hsorted
      obtain ⟨hmem, hold⟩ := oldest_head hsorted
      rw [← hs] at hmem hold
      exact Or.inr ⟨hinactive, mem_sort.1 hmem, fun q hq => hold q (mem_sort.2 hq)⟩

theorem sort_sort (policies : List Policy) : sort (sort policies) = sort policies :=
  List.mergeSort_of_pairwise (pairwise_sort policies)

/-- Which policy governs is the same for the policies by age. -/
theorem governing?_sort (policies : List Policy) :
    governing? (sort policies) = governing? policies := by
  unfold governing?
  rw [sort_sort]

/-- Where there are policies one of them governs. -/
theorem exists_governing {policies : List Policy} (h : policies ≠ []) :
    ∃ p ∈ policies, governing? policies = some p := by
  have hgoverns := governs_governing policies
  cases hp : governing? policies with
  | none =>
    rw [hp] at hgoverns
    exact (h hgoverns).elim
  | some p =>
    rw [hp] at hgoverns
    rcases hgoverns with ⟨hmem, -⟩ | ⟨-, hmem, -⟩
    · exact ⟨p, (List.mem_filter.1 hmem).1, rfl⟩
    · exact ⟨p, hmem, rfl⟩

/-- The only active policy governs. -/
theorem governing?_of_sole {policies : List Policy} {p : Policy}
    (h : policies.filter (·.isActive) = [p]) : governing? policies = some p := by
  have hp : p ∈ policies.filter (·.isActive) := by simp [h]
  obtain ⟨hmem, hactive⟩ := List.mem_filter.1 hp
  obtain ⟨q, -, hq⟩ := exists_governing (List.ne_nil_of_mem hmem)
  have hgoverns := governs_governing policies
  rw [hq] at hgoverns
  rcases hgoverns with ⟨hqmem, -⟩ | ⟨hinactive, -⟩
  · rw [h] at hqmem
    rw [hq, List.mem_singleton.1 hqmem]
  · rw [hinactive p hmem] at hactive
    cases hactive

end Policy

end ControlPlane
