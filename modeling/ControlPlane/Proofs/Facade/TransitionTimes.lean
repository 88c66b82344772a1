import ControlPlane.Proofs.Facade.Backend
import ControlPlane.Proofs.Facade.Status
import Mathlib.Data.List.Nodup

/-!
# The times of transitions

The conditions of a facade get their times in two ways: a readiness that is recorded keeps the time
of the one in whose place it comes, and what a backend reports borrows the times that it does not
give. Over any history of both, the time of a condition is the one that was last given to it, or
else that of the change with which it got its status.
-/

namespace ControlPlane

namespace Condition

/-- There is at most one condition of each type, and all have a time. -/
structure Dated (conditions : List Condition) : Prop where
  types : (conditions.map (·.type)).Nodup
  times : ∀ c ∈ conditions, ∃ t, c.lastTransitionTime = some t

variable {now : Instant} {conditions before : List Condition} {c d : Condition}

theorem dated_nil : Dated [] := ⟨List.nodup_nil, nofun⟩

theorem Dated.unique (h : Dated conditions) (hc : c ∈ conditions) (hd : d ∈ conditions)
    (htype : c.type = d.type) : c = d :=
  List.inj_on_of_nodup_map h.types hc hd htype

theorem Dated.alike?_eq (h : Dated conditions) (hd : d ∈ conditions) (htype : d.type = c.type)
    (hstatus : d.status = c.status) : alike? conditions c = some d := by
  obtain ⟨e, he⟩ := exists_alike? hd
  rw [alike?_congr htype hstatus] at he
  rw [he, h.unique (List.mem_of_find?_eq_some he) hd ((alike_of_alike? he).1.trans htype.symm)]

theorem find?_of_nodup (h : (conditions.map (·.type)).Nodup) (hc : c ∈ conditions) :
    find? conditions c.type = some c := by
  obtain ⟨d, hd⟩ := Option.isSome_iff_exists.1
    (List.find?_isSome (p := fun d : Condition => d.type = c.type).2 ⟨c, hc, by simp⟩)
  have htype : d.type = c.type := by simpa using List.find?_some hd
  rw [find?, hd, List.inj_on_of_nodup_map h (List.mem_of_find?_eq_some hd) hc htype]

theorem Revised.nodup_types {type : String} {conditions conditions' : List Condition}
    (h : Revised type conditions conditions') (hnodup : (conditions.map (·.type)).Nodup) :
    (conditions'.map (·.type)).Nodup := by
  cases h with
  | first before after c d _ hc hd => simpa [hc, hd] using hnodup
  | last _ d hother hd =>
    rw [List.map_append, List.nodup_append]
    refine ⟨hnodup, List.nodup_singleton _, ?_⟩
    simpa [hd] using hother

/-- What is recorded has a time if all conditions before have one. -/
theorem Dated.put (h : Dated conditions) (hc : c.lastTransitionTime = some now) :
    Dated (put c conditions) := by
  refine ⟨(revised_put c conditions).nodup_types h.types, fun d hd => ?_⟩
  rcases mem_put hd with rfl | hmem
  · unfold recorded
    split
    · next p hp =>
      unfold settle
      split
      · exact h.times p (List.mem_of_find?_eq_some hp)
      · exact ⟨now, hc⟩
    · exact ⟨now, hc⟩
  · exact h.times d hmem

/-- The time `t` of the condition `c` is the one that is given, if any is. Else it is that of the
condition of the same type before, as long as the status is the same, and the present when the
condition is new or has got another status. -/
structure Follows (reported : Option Instant) (now : Instant) (before : List Condition)
    (c : Condition) (t : Instant) : Prop where
  given : ∀ t', reported = some t' → t = t'
  kept : reported = none → ∀ p ∈ before, p.type = c.type → p.status = c.status →
    p.lastTransitionTime = some t
  arisen : reported = none → (∀ p ∈ before, p.type = c.type → p.status ≠ c.status) → t = now

theorem follows_none {t : Instant}
    (kept : ∀ p ∈ before, p.type = c.type → p.status = c.status → p.lastTransitionTime = some t)
    (arisen : (∀ p ∈ before, p.type = c.type → p.status ≠ c.status) → t = now) :
    Follows none now before c t where
  given t' h := by cases h
  kept _ := kept
  arisen _ := arisen

/-- A condition that stays keeps its time. -/
theorem Dated.follows_of_mem (h : Dated before) (hc : c ∈ before) :
    ∃ t, c.lastTransitionTime = some t ∧ Follows none now before c t := by
  obtain ⟨t, ht⟩ := h.times c hc
  refine ⟨t, ht, follows_none (fun p hp htype _ => ?_) fun hnew => (hnew c hc rfl rfl).elim⟩
  rwa [h.unique hp hc htype]

/-- A condition that is recorded keeps the time of the one before if that has the same status. -/
theorem Dated.follows_recorded (h : Dated before) (hc : c.lastTransitionTime = some now) :
    ∃ t, (recorded before c).lastTransitionTime = some t ∧
      Follows none now before (recorded before c) t := by
  by_cases hkept : ∃ p, find? before c.type = some p ∧ p.status = c.status
  · obtain ⟨p, hfind, hstatus⟩ := hkept
    have hp := List.mem_of_find?_eq_some hfind
    have htype : p.type = c.type := by simpa using List.find?_some hfind
    obtain ⟨t, ht⟩ := h.times p hp
    rw [recorded_of_kept hfind hstatus]
    refine ⟨t, ht, follows_none (fun q hq hqtype _ => ?_) fun hnew => ?_⟩
    · rwa [h.unique hq hp (hqtype.trans htype.symm)]
    · exact (hnew p hp htype hstatus).elim
  · rw [recorded_of_arisen fun p hfind hstatus => hkept ⟨p, hfind, hstatus⟩]
    refine ⟨now, hc, follows_none (fun q hq hqtype hqstatus => ?_) fun _ => rfl⟩
    exact (hkept ⟨q, hqtype ▸ find?_of_nodup h.types hq, hqstatus⟩).elim

theorem Dated.follows_put (h : Dated before) (hc : c.lastTransitionTime = some now)
    (hd : d ∈ Condition.put c before) :
    ∃ t, d.lastTransitionTime = some t ∧ Follows none now before d t := by
  rcases mem_put hd with rfl | hmem
  · exact h.follows_recorded hc
  · exact h.follows_of_mem hmem

end Condition

namespace Facade

open Condition (Dated Follows)

variable {k : FacadeKind} {now : Instant} {before conditions : List Condition} {c : Condition}

theorem dated_stamp (now : Instant) (before : List Condition)
    (h : (conditions.map (·.type)).Nodup) : Dated (conditions.map (stamp now before)) := by
  refine ⟨?_, fun d hd => ?_⟩
  · simpa [Function.comp_def, stamp_eq] using h
  · obtain ⟨c, -, rfl⟩ := List.mem_map.1 hd
    rw [stamp_eq]
    exact ⟨_, rfl⟩

/-- A condition that gets its time when it is passed through borrows it from the one before that is
alike. -/
theorem follows_stamp (h : Dated before) (now : Instant) (c : Condition) :
    ∃ t, (stamp now before c).lastTransitionTime = some t ∧
      Follows c.lastTransitionTime now before (stamp now before c) t := by
  rw [stamp_eq]
  refine ⟨_, rfl, fun t ht => ?_, fun hnone p hp htype hstatus => ?_, fun hnone hnew => ?_⟩
  · rw [stampedTime, ht, Option.getD_some]
  · have halike : Condition.alike? before c = some p := h.alike?_eq hp htype hstatus
    obtain ⟨t, ht⟩ := h.times p hp
    rw [stampedTime_of_none hnone, transitionTime_eq, halike, Option.bind_some, ht]
    rfl
  · have halike : Condition.alike? before c = none := by simpa [Condition.alike?] using hnew
    rw [stampedTime_of_none hnone, transitionTime_eq, halike]
    rfl

end Facade

/-! ## Histories -/

/-- The status that the backend reports, if it can be read. -/
def Backend.reported? (k : FacadeKind) (b : Backend) : Option (Status k.Details) :=
  b.status?.bind fun raw => (k.statusCodec.read raw).toOption

/-- A change of a facade's status: a readiness is recorded, as it is where the gate or a missing
provider stands in the way, or the status that follows from a backend is taken over. -/
inductive StatusChange where
  | recorded (status : ConditionStatus) (reason message : String)
  | derived (b : Backend)

namespace StatusChange

open Condition (Dated Follows readyType)

variable {k : FacadeKind} {f : Facade k} {now : Instant} {before after : List Condition}
  {change : StatusChange} {c : Condition}

/-- The facade after the change. Where no status follows from the backend it is left as it is. -/
def apply (f : Facade k) (now : Instant) : StatusChange → Facade k
  | recorded status reason message =>
    { f with status := some (f.currentStatus.setCondition (.ready now status reason message)).2 }
  | derived b =>
    match f.deriveStatus now b with
    | .ok s => { f with status := some s }
    | .error _ => f

/-- The time that the backend has given to the condition of this type, if one is taken over. -/
def time? (k : FacadeKind) (change : StatusChange) (type : String) : Option Instant :=
  match change with
  | recorded .. => none
  | derived b => do (← Condition.find? (← b.reported? k).conditions type).lastTransitionTime

/-- A backend that is taken over reports at most one condition of each type. -/
def Distinct (k : FacadeKind) : StatusChange → Prop
  | recorded .. => True
  | derived b => ∀ s, b.reported? k = some s → (s.conditions.map (·.type)).Nodup

/-- What a change makes of the conditions: they stay, or one of them is recorded at the present, or
they are passed through from the backend. -/
inductive Makes (k : FacadeKind) (change : StatusChange) (now : Instant)
    (before : List Condition) : List Condition → Prop
  | same (htime : ∀ type, change.time? k type = none) : Makes k change now before before
  | put (c : Condition) (htime : ∀ type, change.time? k type = none)
    (hc : c.lastTransitionTime = some now) : Makes k change now before (Condition.put c before)
  | passed (s : Status k.Details) (hs : (s.conditions.map (·.type)).Nodup)
    (htime : ∀ c ∈ s.conditions, change.time? k c.type = c.lastTransitionTime) :
    Makes k change now before (s.conditions.map (Facade.stamp now before))

theorem makes_apply (hchange : change.Distinct k) (f : Facade k) (now : Instant) :
    change.Makes k now f.currentStatus.conditions
      (change.apply f now).currentStatus.conditions := by
  cases change with
  | recorded status reason message =>
    show Makes k _ now _ (f.currentStatus.setCondition _).2.conditions
    rw [Status.conditions_setCondition]
    exact .put _ (fun _ => rfl) rfl
  | derived b =>
    cases hraw : b.status? with
    | none =>
      have htime (type : String) : (derived b).time? k type = none := by
        simp [time?, Backend.reported?, hraw]
      rw [apply, Facade.deriveStatus_of_none hraw]
      show Makes k _ now _ (f.currentStatus.setCondition _).2.conditions
      rw [Status.conditions_setCondition]
      exact .put _ htime rfl
    | some raw =>
      cases hread : k.statusCodec.read raw with
      | error message =>
        have htime (type : String) : (derived b).time? k type = none := by
          simp [time?, Backend.reported?, hraw, hread, Except.toOption]
        rw [apply, Facade.deriveStatus_of_unreadable hraw hread]
        exact .same htime
      | ok s =>
        have hreported : b.reported? k = some s := by
          simp [Backend.reported?, hraw, hread, Except.toOption]
        have hs := hchange s hreported
        rw [apply, Facade.deriveStatus_of_read hraw hread]
        refine .passed s hs fun c hc => ?_
        simp [time?, hreported, Condition.find?_of_nodup hs hc]

/-- Every change leaves at most one condition of each type, and all with a time. -/
theorem Makes.dated (h : change.Makes k now before after) (hbefore : Dated before) :
    Dated after := by
  cases h with
  | same => exact hbefore
  | put c _ hc => exact hbefore.put hc
  | passed s hs => exact Facade.dated_stamp now before hs

/-- After every change the times follow from what was before. -/
theorem Makes.follows (h : change.Makes k now before after) (hbefore : Dated before)
    (hc : c ∈ after) :
    ∃ t, c.lastTransitionTime = some t ∧ Follows (change.time? k c.type) now before c t := by
  cases h with
  | same htime =>
    rw [htime]
    exact hbefore.follows_of_mem hc
  | put d htime hd =>
    rw [htime]
    exact hbefore.follows_put hd hc
  | passed s hs htime =>
    obtain ⟨d, hd, rfl⟩ := List.mem_map.1 hc
    have htype : (Facade.stamp now before d).type = d.type := by rw [Facade.stamp_eq]
    rw [htype, htime d hd]
    exact Facade.follows_stamp hbefore now d

end StatusChange

namespace Facade

variable {k : FacadeKind} {f : Facade k}

/-- The facade after the changes, each at its own time. -/
def after (f : Facade k) (history : List (Instant × StatusChange)) : Facade k :=
  history.foldl (fun f e => e.2.apply f e.1) f

theorem dated_after (hf : Condition.Dated f.currentStatus.conditions)
    {history : List (Instant × StatusChange)} (hhistory : ∀ e ∈ history, e.2.Distinct k) :
    Condition.Dated (f.after history).currentStatus.conditions := by
  induction history generalizing f with
  | nil => exact hf
  | cons e rest ih =>
    obtain ⟨he, hrest⟩ := List.forall_mem_cons.1 hhistory
    exact ih ((StatusChange.makes_apply he f e.1).dated hf) hrest

/-- Times follow statuses. Whatever has happened to a facade that had no status at first, after
every change it has at most one condition of each type, readiness among them, and each has the time
that the change gave to it, or else the time that it had before, if it had the same status, or else
the present. -/
theorem times_follow_statuses (f : Facade k) (hf : f.status = none)
    (history : List (Instant × StatusChange)) (now : Instant) (change : StatusChange)
    (hdistinct : ∀ e ∈ history ++ [(now, change)], e.2.Distinct k) :
    ((f.after (history ++ [(now, change)])).currentStatus.conditions.map (·.type)).Nodup ∧
      ∀ c ∈ (f.after (history ++ [(now, change)])).currentStatus.conditions,
        ∃ t, c.lastTransitionTime = some t ∧
          Condition.Follows (change.time? k c.type) now
            (f.after history).currentStatus.conditions c t := by
  have hstart : Condition.Dated f.currentStatus.conditions := by
    rw [currentStatus, hf]
    exact Condition.dated_nil
  obtain ⟨hhistory, hchange⟩ := List.forall_mem_append.1 hdistinct
  have hbefore := dated_after hstart hhistory
  have hlast : f.after (history ++ [(now, change)]) = change.apply (f.after history) now := by
    simp only [after, List.foldl_append, List.foldl_cons, List.foldl_nil]
  have hmakes := StatusChange.makes_apply (hchange _ (List.mem_singleton_self _))
    (f.after history) now
  rw [hlast]
  exact ⟨(hmakes.dated hbefore).types, fun c hc => hmakes.follows hbefore hc⟩

/-- A readiness that is reported again without a time has the one at which it was reported first
after the facade had waited for a provider and for its report. -/
theorem times_follow_statuses_while_ready :
    let reporting (data : Dict Json) : Backend := { type := none, metadata := {}, data }
    let backend := reporting [("status", .object [("conditions", .array
      [.object [("status", .string "True"), ("type", .string "Ready")]])])]
    let f : Facade .connection :=
      ⟨⟨{ name := some "orders", ns := some "team" }, ⟨⟨"prod", none⟩, "db", none, none⟩⟩, none⟩
    let history : List (Instant × StatusChange) :=
      [(⟨10, 0⟩, .recorded .fails Reason.providerNotFound "no provider is registered"),
        (⟨20, 0⟩, .derived (reporting [])), (⟨30, 0⟩, .derived backend)]
    let c : Condition := ⟨"Ready", .holds, "", "", some ⟨30, 0⟩⟩
    (f.after (history ++ [(⟨40, 0⟩, .derived backend)])).currentStatus.conditions = [c] ∧
      Condition.Follows none ⟨40, 0⟩ [c] c ⟨30, 0⟩ := by
  intro reporting backend f history c
  have hpending : (StatusChange.derived (reporting [])).Distinct .connection := by
    intro s hs
    cases hs
  have hbackend : (StatusChange.derived backend).Distinct .connection := by
    intro s hs
    obtain rfl : ⟨[⟨"Ready", .holds, "", "", none⟩], ⟨none, none⟩⟩ = s := Option.some.inj hs
    exact List.nodup_singleton _
  have hdistinct : ∀ e ∈ history ++ [(⟨40, 0⟩, .derived backend)], e.2.Distinct .connection := by
    simp only [history, List.forall_mem_append, List.forall_mem_cons]
    exact ⟨⟨trivial, hpending, hbackend, List.forall_mem_nil _⟩, hbackend, List.forall_mem_nil _⟩
  have hready : (f.after history).currentStatus.conditions = [c] := by decide +kernel
  have hstill : (f.after (history ++ [(⟨40, 0⟩, .derived backend)])).currentStatus.conditions =
      [c] := by decide +kernel
  obtain ⟨-, h⟩ := times_follow_statuses f rfl history ⟨40, 0⟩ (.derived backend) hdistinct
  rw [hready, hstill] at h
  obtain ⟨t, ht, hfollows⟩ := h c (List.mem_singleton_self c)
  obtain rfl : ⟨30, 0⟩ = t := Option.some.inj ht
  exact ⟨hstill, hfollows⟩

end Facade

end ControlPlane
