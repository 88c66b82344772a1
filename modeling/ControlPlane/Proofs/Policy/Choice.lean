import ControlPlane.Proofs.Policy.Governing
import Mathlib.Data.Int.ConditionallyCompleteOrder
import Mathlib.Data.List.Nodup
import Mathlib.Data.Prod.Lex
import Mathlib.Data.String.Basic
import Mathlib.Order.ConditionallyCompleteLattice.Basic

/-!
# The choice of the policy that governs

The age of an object is its time of creation, or that it has none, which is before all times, and
then its name. Policies with names of their own differ in age, so that one of them is the oldest.
Which one governs depends neither on the order in which they are listed nor on those that are
passed over.
-/

namespace ControlPlane

namespace Instant

/-- The place of an instant in time. -/
def position (t : Instant) : ℤ ×ₗ ℕ := toLex (t.seconds, t.nanos)

theorem le_iff_position {s t : Instant} : s.le t = true ↔ s.position ≤ t.position := by
  rw [le_iff, position, position, Prod.Lex.toLex_le_toLex]

theorem position_inj {s t : Instant} : s.position = t.position ↔ s = t := by
  cases s
  cases t
  simp [position]

end Instant

namespace Metadata

variable {a b : Metadata}

/-- The time of creation; to have none is before all times. -/
def created (m : Metadata) : WithBot (ℤ ×ₗ ℕ) :=
  match m.creationTimestamp with
  | none => ⊥
  | some t => t.position

/-- The time of creation, and then the name. -/
def age (m : Metadata) : WithBot (ℤ ×ₗ ℕ) ×ₗ String := toLex (m.created, m.anyName)

theorem noYoungerThan_iff : a.noYoungerThan b = true ↔ a.age ≤ b.age := by
  unfold noYoungerThan age created
  rw [Prod.Lex.toLex_le_toLex]
  cases a.creationTimestamp with
  | none => cases b.creationTimestamp <;> simp
  | some s =>
    cases b.creationTimestamp with
    | none => simp
    | some t =>
      by_cases h : s = t
      · simp [h]
      · have hne : s.position ≠ t.position := fun heq => h (Instant.position_inj.1 heq)
        simp [h, hne, Instant.le_iff_position, le_iff_lt_or_eq]

theorem age_lt_iff : a.age < b.age ↔ b.noYoungerThan a = false := by
  rw [← not_le, ← noYoungerThan_iff, Bool.not_eq_true]

theorem anyName_eq_of_age (h : a.age = b.age) : a.anyName = b.anyName :=
  congrArg (fun x => (ofLex x).2) h

end Metadata

namespace Policy

variable {policies policies' : List Policy} {p q : Policy}

/-- The policy is older than all others among `policies`. -/
def Eldest (policies : List Policy) (p : Policy) : Prop :=
  p ∈ policies ∧ ∀ q ∈ policies, q ≠ p → p.metadata.age < q.metadata.age

/-- The policy is the oldest of the active ones, or else none is active and it is the oldest of
all. -/
def Prevails (policies : List Policy) (p : Policy) : Prop :=
  Eldest (policies.filter (·.isActive)) p ∨
    (∀ q ∈ policies, q.isActive = false) ∧ Eldest policies p

theorem Eldest.eq_of_oldest (h : Eldest policies p) (hq : Oldest policies q) : q = p := by
  by_contra hne
  have hle : q.metadata.age ≤ p.metadata.age := Metadata.noYoungerThan_iff.1 (hq.2 p h.1)
  exact absurd (h.2 q hq.1 hne) (not_lt_of_ge hle)

/-- Where names are distinct, no other policy is as old as the oldest one. -/
theorem Oldest.eldest (hn : (policies.map (·.metadata.anyName)).Nodup) (h : Oldest policies p) :
    Eldest policies p := by
  refine ⟨h.1, fun q hq hne => ?_⟩
  refine lt_of_le_of_ne (Metadata.noYoungerThan_iff.1 (h.2 q hq)) fun hage => hne ?_
  exact (List.inj_on_of_nodup_map hn h.1 hq (Metadata.anyName_eq_of_age hage)).symm

namespace Prevails

theorem mem (h : Prevails policies p) : p ∈ policies := by
  rcases h with ⟨hmem, -⟩ | ⟨-, hmem, -⟩
  · exact (List.mem_filter.1 hmem).1
  · exact hmem

/-- The policy that prevails governs. -/
theorem governing (h : Prevails policies p) : governing? policies = some p := by
  obtain ⟨q, -, hq⟩ := exists_governing (List.ne_nil_of_mem h.mem)
  have hgoverns := governs_governing policies
  rw [hq] at hgoverns
  rw [hq]
  refine congrArg some ?_
  rcases h with heldest | ⟨hinactive, heldest⟩
  · rcases hgoverns with holdest | ⟨hinactive, -⟩
    · exact heldest.eq_of_oldest holdest
    · obtain ⟨hmem, hactive⟩ := List.mem_filter.1 heldest.1
      rw [hinactive p hmem] at hactive
      cases hactive
  · rcases hgoverns with ⟨hmem, -⟩ | ⟨-, holdest⟩
    · obtain ⟨hmem, hactive⟩ := List.mem_filter.1 hmem
      rw [hinactive q hmem] at hactive
      cases hactive
    · exact heldest.eq_of_oldest holdest

/-- Of policies with names of their own, the one that governs prevails. -/
theorem of_governing (hn : (policies.map (·.metadata.anyName)).Nodup)
    (h : governing? policies = some p) : Prevails policies p := by
  have hgoverns := governs_governing policies
  rw [h] at hgoverns
  rcases hgoverns with holdest | ⟨hinactive, holdest⟩
  · have hsub : (policies.filter (·.isActive)).Sublist policies := List.filter_sublist
    exact Or.inl (holdest.eldest ((hsub.map _).nodup hn))
  · exact Or.inr ⟨hinactive, holdest.eldest hn⟩

/-- The policy prevails also where some of the others are left out. -/
theorem of_subset (h : Prevails policies p) (hsub : policies' ⊆ policies) (hp : p ∈ policies') :
    Prevails policies' p := by
  rcases h with ⟨hmem, hold⟩ | ⟨hinactive, -, hold⟩
  · have hactive := (List.mem_filter.1 hmem).2
    refine Or.inl ⟨List.mem_filter.2 ⟨hp, hactive⟩, fun q hq => hold q ?_⟩
    obtain ⟨hq, hqactive⟩ := List.mem_filter.1 hq
    exact List.mem_filter.2 ⟨hsub hq, hqactive⟩
  · exact Or.inr ⟨fun q hq => hinactive q (hsub hq), hp, fun q hq => hold q (hsub hq)⟩

/-- The policy prevails also with an inactive one more, unless that is older and none is active. -/
theorem insert (h : Prevails policies p) (hmem : ∀ a, a ∈ policies' ↔ a = q ∨ a ∈ policies)
    (hq : q.isActive = false)
    (hpassed : p.metadata.age < q.metadata.age ∨ ∃ a ∈ policies, a.isActive = true) :
    Prevails policies' p := by
  rcases h with ⟨hp, hold⟩ | ⟨hinactive, hp, hold⟩
  · obtain ⟨hp, hactive⟩ := List.mem_filter.1 hp
    refine Or.inl ⟨List.mem_filter.2 ⟨(hmem p).2 (Or.inr hp), hactive⟩, fun a ha => hold a ?_⟩
    obtain ⟨ha, haactive⟩ := List.mem_filter.1 ha
    rcases (hmem a).1 ha with rfl | ha
    · rw [hq] at haactive
      cases haactive
    · exact List.mem_filter.2 ⟨ha, haactive⟩
  · rcases hpassed with hyounger | ⟨a, ha, hactive⟩
    · refine Or.inr ⟨fun a ha => ?_, (hmem p).2 (Or.inr hp), fun a ha hne => ?_⟩
      · rcases (hmem a).1 ha with rfl | ha
        · exact hq
        · exact hinactive a ha
      · rcases (hmem a).1 ha with rfl | ha
        · exact hyounger
        · exact hold a ha hne
    · rw [hinactive a ha] at hactive
      cases hactive

end Prevails

theorem governing?_eq_none : governing? policies = none ↔ policies = [] := by
  constructor
  · intro hnone
    by_contra hne
    obtain ⟨p, -, hp⟩ := exists_governing hne
    rw [hnone] at hp
    cases hp
  · rintro rfl
    simp [governing?, sort]

/-- The policy that governs does not depend on the order of the policies. -/
theorem governing?_perm (hn : (policies.map (·.metadata.anyName)).Nodup)
    (h : policies'.Perm policies) : governing? policies' = governing? policies := by
  cases hp : governing? policies with
  | none =>
    rw [governing?_eq_none] at hp ⊢
    rw [hp] at h
    exact h.eq_nil
  | some p =>
    have hprevails := Prevails.of_governing hn hp
    exact (hprevails.of_subset h.subset (h.mem_iff.2 hprevails.mem)).governing

/-- Of policies with names of their own, the one that prevails governs, and none only where there
are none. That is the same in whatever order they are listed, and for the policies by age. It stays
the same without any one of the others, and with an inactive one more that is younger than it; and
with any inactive one more while one is active. -/
theorem governing_determined (policies : List Policy)
    (hn : (policies.map (·.metadata.anyName)).Nodup) :
    (governing? policies = none ↔ policies = []) ∧
    (∀ p, governing? policies = some p ↔ Prevails policies p) ∧
    (∀ policies', policies'.Perm policies → governing? policies' = governing? policies) ∧
    governing? (sort policies) = governing? policies ∧
    ∀ p, governing? policies = some p →
      (∀ before q after, policies = before ++ q :: after → q ≠ p →
        governing? (before ++ after) = some p) ∧
      (∀ before after q, policies = before ++ after → q.isActive = false →
        p.metadata.age < q.metadata.age ∨ (∃ a ∈ policies, a.isActive = true) →
        governing? (before ++ q :: after) = some p) := by
  refine ⟨governing?_eq_none, fun p => ⟨Prevails.of_governing hn, Prevails.governing⟩,
    fun policies' => governing?_perm hn, governing?_sort policies,
    fun p hp => ⟨?deleted, ?added⟩⟩
  case deleted =>
    rintro before q after rfl hne
    have hprevails := Prevails.of_governing hn hp
    have hmem := hprevails.mem
    refine (hprevails.of_subset ?_ ?_).governing
    · exact ((List.sublist_cons_self q after).append_left before).subset
    · simpa [Ne.symm hne] using hmem
  case added =>
    rintro before after q rfl hq hpassed
    refine ((Prevails.of_governing hn hp).insert (fun a => ?_) hq hpassed).governing
    simp [or_left_comm]

/-- Of three inactive policies the one without a time of creation governs: in another order too,
without one of the others, and with a fourth that comes after it by name only. -/
theorem governing_determined_among_inactive :
    let policy (name : String) (created : Option Instant) : Policy :=
      ⟨⟨{ name := some name, creationTimestamp := created }, ⟨⟨none, none, none⟩⟩⟩, none⟩
    let a := policy "a" (some ⟨100, 0⟩)
    let b := policy "b" (some ⟨100, 0⟩)
    let c := policy "c" none
    governing? [b, a, c] = some c ∧ governing? [c, b, a] = some c ∧ governing? [b, c] = some c ∧
      governing? [b, policy "d" none, a, c] = some c := by
  intro policy a b c
  obtain ⟨-, hprevails, hperm, -, hothers⟩ := governing_determined [b, a, c] (by decide)
  have hc : governing? [b, a, c] = some c := by
    refine (hprevails c).2 (Or.inr ⟨by decide, by simp, fun q hq hne => ?_⟩)
    rw [Metadata.age_lt_iff]
    obtain rfl | rfl : q = b ∨ q = a := by simpa [hne] using hq
    · decide
    · decide
  obtain ⟨hdeleted, hadded⟩ := hothers c hc
  refine ⟨hc, (hperm [c, b, a] ?_).trans hc, ?_, ?_⟩
  · exact @List.perm_append_comm _ [c] [b, a]
  · refine hdeleted [b] a [c] rfl fun h => ?_
    exact absurd (congrArg (·.metadata.name) h) (by decide)
  · exact hadded [b] [a, c] (policy "d" none) rfl rfl (Or.inl (Metadata.age_lt_iff.2 (by decide)))

end Policy

end ControlPlane
