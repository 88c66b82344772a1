import ControlPlane.Proofs.Facade.Backend
import Mathlib.Data.List.Forall2

/-!
# Statuses that are derived

What a backend reports is passed through, but for the times that it does not give, which are
borrowed from the status before. Derived again and again the status becomes stable. Where the
backend reports one condition several times over, the second status need not be the first one; the
third is always the second.
-/

namespace ControlPlane.Facade

variable {k : FacadeKind} {now : Instant}

/-! ## What is passed through -/

/-- A condition that a backend reports gets this time: its own, or else that of the first condition
before of its type and status, if there is one and has a time, or else the present. -/
inductive StampedAt (now : Instant) (before : List Condition) (c : Condition) : Instant → Prop
  | given {t : Instant} (ht : c.lastTransitionTime = some t) : StampedAt now before c t
  | borrowed {others after : List Condition} {p : Condition} (hnone : c.lastTransitionTime = none)
    (hbefore : before = others ++ p :: after) (htype : p.type = c.type)
    (hstatus : p.status = c.status)
    (hfirst : ∀ q ∈ others, ¬ (q.type = c.type ∧ q.status = c.status)) :
    StampedAt now before c (p.lastTransitionTime.getD now)
  | fresh (hnone : c.lastTransitionTime = none)
    (hother : ∀ q ∈ before, ¬ (q.type = c.type ∧ q.status = c.status)) : StampedAt now before c now

theorem stampedAt_stampedTime (now : Instant) (before : List Condition) (c : Condition) :
    StampedAt now before c (stampedTime now before c) := by
  cases ht : c.lastTransitionTime with
  | some t =>
    rw [stampedTime, ht]
    exact .given ht
  | none =>
    rw [stampedTime_of_none ht, transitionTime_eq]
    cases hp : Condition.alike? before c with
    | none => exact .fresh ht (by simpa [Condition.alike?] using hp)
    | some p =>
      obtain ⟨halike, others, after, hbefore, hfirst⟩ := List.find?_eq_some_iff_append.1 hp
      obtain ⟨htype, hstatus⟩ := of_decide_eq_true halike
      refine .borrowed ht hbefore htype hstatus fun q hq => ?_
      simpa only [Bool.not_eq_true', decide_eq_false_iff_not] using hfirst q hq

/-- Nothing but the time of a condition differs from what is reported, and the order is kept. -/
theorem forall₂_stamp (now : Instant) (before conditions : List Condition) :
    List.Forall₂ (fun c d => ∃ t, StampedAt now before c t ∧
      d = { c with lastTransitionTime := some t }) conditions
      (conditions.map (stamp now before)) := by
  refine List.forall₂_map_right_iff.2 (List.forall₂_same.2 fun c _ => ?_)
  exact ⟨_, stampedAt_stampedTime now before c, stamp_eq now before c⟩

/-! ## Stability -/

/-- Derived statuses become stable. Derived from one backend at any three times, each from the
status before, the third is the second; and the second is the first already if the backend reports
no status, or has given every condition a time that repeats the type and status of another one. -/
theorem deriveStatus_stabilises (f : Facade k) (b : Backend)
    (hb : ∀ raw, b.status? = some raw → ∃ s, k.statusCodec.read raw = .ok s)
    (now now₁ now₂ : Instant) (version version₁ : Option String) :
    ∃ s s₁, f.deriveStatus now b = .ok s ∧
      (f.updated version (some s)).deriveStatus now₁ b = .ok s₁ ∧
      (f.updated version₁ (some s₁)).deriveStatus now₂ b = .ok s₁ ∧
      (b.status? = none ∨ b.DatesRepeats k → s₁ = s) := by
  cases hraw : b.status? with
  | none =>
    have hdates : b.DatesRepeats k := fun raw _ h _ => by simp [hraw] at h
    have hfirst := deriveStatus_of_none hraw f now
    exact ⟨_, _, hfirst, deriveStatus_again hfirst hdates version now₁,
      deriveStatus_again hfirst hdates version₁ now₂, fun _ => rfl⟩
  | some raw =>
    obtain ⟨s, hs⟩ := hb raw hraw
    have hthird := stamp_third now now₁ now₂ f.currentStatus.conditions s.conditions
    refine ⟨_, _, deriveStatus_of_read hraw hs f now, deriveStatus_of_read hraw hs _ now₁, ?_, ?_⟩
    · refine (deriveStatus_of_read hraw hs _ now₂).trans ?_
      exact congrArg (fun conditions => Except.ok (Status.mk conditions s.details)) hthird
    · rintro (hnone | hdates)
      · cases hnone
      · have hagain := stamp_again now now₁ f.currentStatus.conditions (hdates raw s hraw hs)
        exact congrArg (Status.mk · s.details) hagain

/-- A condition without a time that repeats one with a time takes the present at first and the time
of the other one after that. In the other order all stays as it is. -/
theorem deriveStatus_stabilises_with_repeats :
    let dated : Json := .object
      [("lastTransitionTime", .string "1970-01-01T00:00:05Z"), ("status", .string "True"),
        ("type", .string "Ready")]
    let undated : Json := .object [("status", .string "True"), ("type", .string "Ready")]
    let reporting (conditions : List Json) : Backend :=
      { type := none, metadata := {}
        data := [("status", .object [("conditions", .array conditions)])] }
    let readyAt (seconds : Option Nat) : Condition :=
      ⟨"Ready", .holds, "", "", seconds.map fun s => ⟨s, 0⟩⟩
    let f : Facade .connection :=
      ⟨⟨{ name := some "orders", ns := some "team" }, ⟨⟨"prod", none⟩, "db", none, none⟩⟩, none⟩
    (∃ s s₁, f.deriveStatus ⟨60, 0⟩ (reporting [dated, undated]) = .ok s ∧
      (f.updated none (some s)).deriveStatus ⟨120, 0⟩ (reporting [dated, undated]) = .ok s₁ ∧
      (f.updated none (some s₁)).deriveStatus ⟨180, 0⟩ (reporting [dated, undated]) = .ok s₁ ∧
      s.conditions = [readyAt (some 5), readyAt (some 60)] ∧
      s₁.conditions = [readyAt (some 5), readyAt (some 5)]) ∧
    ∃ s, f.deriveStatus ⟨60, 0⟩ (reporting [undated, dated]) = .ok s ∧
      (f.updated none (some s)).deriveStatus ⟨120, 0⟩ (reporting [undated, dated]) = .ok s ∧
      s.conditions = [readyAt (some 60), readyAt (some 5)] := by
  intro dated undated reporting readyAt f
  have hread (conditions : List Json) (s : Status ConnectionDetails)
      (h : Connection.statusCodec.read (.object [("conditions", .array conditions)]) = .ok s) :
      ∀ raw, (reporting conditions).status? = some raw →
        ∃ s, FacadeKind.connection.statusCodec.read raw = .ok s := by
    intro raw hraw
    obtain rfl := Option.some.inj hraw
    exact ⟨s, h⟩
  refine ⟨?_, ?_⟩
  · obtain ⟨s, s₁, hs, hs₁, hs₂, -⟩ := deriveStatus_stabilises f (reporting [dated, undated])
      (hread _ ⟨[readyAt (some 5), readyAt none], ⟨none, none⟩⟩ rfl) ⟨60, 0⟩ ⟨120, 0⟩ ⟨180, 0⟩
      none none
    obtain rfl : ⟨[readyAt (some 5), readyAt (some 60)], ⟨none, none⟩⟩ = s := Except.ok.inj hs
    obtain rfl : ⟨[readyAt (some 5), readyAt (some 5)], ⟨none, none⟩⟩ = s₁ := Except.ok.inj hs₁
    exact ⟨_, _, hs, hs₁, hs₂, rfl, rfl⟩
  · obtain ⟨s, s₁, hs, hs₁, -, hstable⟩ := deriveStatus_stabilises f (reporting [undated, dated])
      (hread _ ⟨[readyAt none, readyAt (some 5)], ⟨none, none⟩⟩ rfl) ⟨60, 0⟩ ⟨120, 0⟩ ⟨180, 0⟩
      none none
    have hdates : (reporting [undated, dated]).DatesRepeats .connection := by
      intro raw s hraw hs
      obtain rfl := Option.some.inj hraw
      obtain rfl : ⟨[readyAt none, readyAt (some 5)], ⟨none, none⟩⟩ = s := Except.ok.inj hs
      simp [readyAt]
    rw [hstable (.inr hdates)] at hs₁
    obtain rfl : ⟨[readyAt (some 60), readyAt (some 5)], ⟨none, none⟩⟩ = s := Except.ok.inj hs
    exact ⟨_, hs, hs₁, rfl⟩

end ControlPlane.Facade
