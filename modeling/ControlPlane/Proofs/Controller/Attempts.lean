import ControlPlane.Proofs.Controller.Conflicts
import ControlPlane.Proofs.Retry

/-!
# Attempts at facades

An attempt is a run and, when the run fails, the question how long to wait. It counts its own
failure, and forgets the failures of its facade when it has brought it up to date. An attempt that
the inventory holds up ends well and yet leaves the failures counted.
-/

namespace ControlPlane

open Controller

/-- The event asks for a backend, as a run does once the inventory admits it. -/
def Event.asksBackend : Event → Bool
  | ⟨.api (.getBackend _ _ _), _⟩ => true
  | _ => false

/-- The event is a call that met a conflict. -/
def Event.meetsConflict : Event → Bool
  | ⟨.api _, .error e⟩ => e.isConflict
  | _ => false

/-- A run that has ended, and what followed from its result. -/
structure Attempt where
  events : List Event
  result : Except Error Action
  next : Action

namespace Attempt

/-- The run went on to the backend. -/
def admitted (a : Attempt) : Bool := a.events.any Event.asksBackend

/-- The run came to the backend and ended there because of a conflict. -/
def contested (a : Attempt) : Bool := a.admitted && a.events.getLast?.any Event.meetsConflict

/-- The run has brought the facade up to date. -/
def settled (a : Attempt) : Bool := a.result.isOk && a.admitted && !a.contested

/-- The run has failed with an error that trying again can mend. -/
def failed (a : Attempt) : Bool :=
  match a.result with
  | .ok _ => false
  | .error e => e.isRetryable

section Results

variable {h : List Event} {x next : Action} {e : Error}

@[simp] theorem settled_ok : settled ⟨h, .ok x, next⟩ =
    (h.any Event.asksBackend && !h.getLast?.any Event.meetsConflict) := by
  simp only [settled, admitted, contested, Except.isOk, Except.toBool]
  cases h.any Event.asksBackend <;> rfl

@[simp] theorem settled_error : settled ⟨h, .error e, next⟩ = false := rfl

@[simp] theorem failed_ok : failed ⟨h, .ok x, next⟩ = false := rfl

@[simp] theorem failed_error : failed ⟨h, .error e, next⟩ = e.isRetryable := rfl

end Results

theorem failed_iff {a : Attempt} :
    a.failed = true ↔ ∃ e, a.result = .error e ∧ e.isRetryable = true := by
  unfold failed
  cases a.result <;> simp

/-- The failures since the last attempt of which `clears` holds. -/
def failuresSince (clears : Attempt → Bool) (past : List Attempt) : Nat :=
  (past.rtakeWhile fun a => !clears a).countP failed

theorem failuresSince_concat (clears : Attempt → Bool) (past : List Attempt) (a : Attempt) :
    failuresSince clears (past ++ [a]) =
      if clears a then 0 else failuresSince clears past + if a.failed then 1 else 0 :=
  countSince_concat clears failed past a

end Attempt

/-- The step leaves all failures as they are counted, or it is one for the failures of this
facade. -/
def Step.CountsFor (k : FacadeKind) (key : String) (c : Step) : Prop :=
  c.LeavesCount ∨ c = .memory (.forgetFailures (.facade k) key) ∨
    c = .memory (.countFailure (.facade k) key)

/-- No step has counted or forgotten failures. -/
def LeaveCount (h : List Event) : Prop := ∀ e ∈ h, e.1.LeavesCount

theorem LeaveCount.concat {h : List Event} (hh : LeaveCount h) {c : Step} (hc : c.LeavesCount)
    (r : c.Reply) : LeaveCount (h ++ [⟨c, r⟩]) :=
  List.forall_mem_append.2 ⟨hh, List.forall_mem_singleton.2 hc⟩

theorem asksBackend_of_spares {c : Step} (hc : c.SparesBackends) (r : c.Reply) :
    Event.asksBackend ⟨c, r⟩ = false := by
  unfold Event.asksBackend
  split
  · next heq =>
    cases heq
    exact False.elim hc
  · rfl

namespace Facade

variable {k : FacadeKind} {f : Facade k} {h : List Event} {interval : Duration} {now : Instant}

/-- How a run ends: it forgets the failures, or it leaves them counted and has not come to the
backend, or has met a conflict there, or has failed. -/
inductive Concludes (f : Facade k) : Except Error Action → List Event → Prop
  | forget {h : List Event} (hh : LeaveCount h) (hasked : h.any Event.asksBackend = true)
    (a : Action) :
    Concludes f (.ok a) (h ++ [⟨.memory (.forgetFailures (.facade k) f.key), ()⟩])
  | leave {h : List Event} {r : Except Error Action} (hh : LeaveCount h)
    (hr : ∀ a, r = .ok a → h.any Event.asksBackend = true →
      h.getLast?.any Event.meetsConflict = true) :
    Concludes f r h

theorem Concludes.failed {e : Error} (hh : LeaveCount h) : f.Concludes (.error e) h :=
  .leave hh nofun

/-- The run has come to the backend, and all failures are as they were counted. -/
structure Inside (h : List Event) : Prop where
  leave : LeaveCount h
  asked : h.any Event.asksBackend = true

theorem Inside.concat (hh : Inside h) {c : Step} (hc : c.LeavesCount) (r : c.Reply) :
    Inside (h ++ [⟨c, r⟩]) :=
  ⟨hh.leave.concat hc r, by simp [List.any_append, hh.asked]⟩

theorem inside_asked (hh : LeaveCount h) (resource : ApiResource) (ns : String)
    (r : Except Error (Option Backend)) : Inside (f.asked resource ns h r) :=
  ⟨hh.concat (c := .api (.getBackend resource ns f.metadata.anyName)) trivial r, by
    simp [asked, Event.asksBackend]⟩

/-- The run has come to the backend, and a write that gave nothing has just met a conflict. -/
structure Brought {α : Type} (r : Except Error (Option α)) (h : List Event) : Prop
    extends Inside h where
  contested : r = .ok none → h.getLast?.any Event.meetsConflict = true

theorem write_brings {c : Call} (hh : Inside h) (key : String) :
    Ensures (fun _ => Step.CountsFor k key) Brought (unlessConflict (api c)) h := by
  have hwritten (r : c.Reply) : Inside (h ++ [⟨.api c, r⟩]) := hh.concat (c := .api c) trivial r
  refine .unlessConflict_api (.inl trivial) (fun a => ?ok) (fun e he => ?conflict)
    fun e _ => ?error
  case ok => exact ⟨hwritten _, nofun⟩
  case conflict => exact ⟨hwritten _, fun _ => by simp [Event.meetsConflict, he]⟩
  case error => exact ⟨hwritten _, nofun⟩

theorem syncBackend_brings (hh : LeaveCount h) (resource : ApiResource) (ns : String) :
    Ensures (fun _ => Step.CountsFor k f.key) Brought (f.syncBackend resource ns) h := by
  have hread (r : Except Error (Option Backend)) : Inside (f.asked resource ns h r) :=
    inside_asked hh resource ns r
  refine syncBackend_ensures (.inl trivial) ?unread ?unnamed ?missing ?refused ?current ?drifted
  case unread => exact fun e => ⟨hread _, nofun⟩
  case unnamed => exact fun e => ⟨hread _, nofun⟩
  case missing => exact fun b _ => write_brings (hread _) f.key
  case refused => exact fun b e _ => ⟨hread _, nofun⟩
  case current => exact fun b _ _ => ⟨hread _, nofun⟩
  case drifted => exact fun b _ _ => write_brings (hread _) f.key

theorem report_concludes (hh : Inside h) (x : Status k.Details) :
    Ensures (fun _ => Step.CountsFor k f.key) f.Concludes (f.report interval x) h := by
  have hforget {h : List Event} (hh : Inside h) :
      Ensures (fun _ => Step.CountsFor k f.key) f.Concludes (do
        memory (.forgetFailures (.facade k) f.key)
        return .requeue interval : Controller Action) h :=
    ⟨.inr (.inl rfl), fun _ => .forget hh.leave hh.asked _⟩
  refine .ite (fun _ => ?_) fun _ => hforget hh
  refine (write_brings (c := f.statusCall x) hh f.key).bind
    (fun _ _ _ h => .failed h.leave) fun written h₁ _ h => ?_
  cases written with
  | none => exact .pure (.leave h.leave fun _ _ _ => h.contested rfl)
  | some _ => exact hforget h.toInside

theorem provision_concludes (hh : LeaveCount h) (resource : ApiResource) (ns : String) :
    Ensures (fun _ => Step.CountsFor k f.key) f.Concludes (f.provision interval now resource ns)
      h := by
  refine provision_ensures (syncBackend_brings hh resource ns) ?failed ?contested ?unreadable
    ?derived
  case failed => exact fun e h' h => .failed h.leave
  case contested => exact fun h' h => .leave h.leave fun _ _ _ => h.contested rfl
  case unreadable => exact fun b e h' h _ => .failed h.leave
  case derived => exact fun b x h' h _ => report_concludes h.toInside x

/-- The run has not come to the backend, and all failures are as they were counted. -/
structure Outside (h : List Event) : Prop where
  leave : LeaveCount h
  asked : h.any Event.asksBackend = false

theorem Outside.concat (hh : Outside h) {c : Step} (hc : c.LeavesCount) (hspares : c.SparesBackends)
    (r : c.Reply) : Outside (h ++ [⟨c, r⟩]) :=
  ⟨hh.leave.concat hc r, by simp [List.any_append, hh.asked, asksBackend_of_spares hspares]⟩

theorem Outside.concludes (hh : Outside h) (r : Except Error Action) : f.Concludes r h := by
  refine .leave hh.leave fun _ _ hasked => ?_
  rw [hh.asked] at hasked
  cases hasked

/-- A run counts no failures, and forgets those of its own facade at the end if at all. -/
theorem reconcile_concludes (f : Facade k) (interval : Duration) (now : Instant) :
    Ensures (fun _ => Step.CountsFor k f.key) f.Concludes (f.reconcile interval now) [] := by
  have hstages : f.Stages interval now (fun _ => Step.CountsFor k f.key) f.Concludes Outside :=
    { lookup := fun h c hh hc _ =>
        ⟨.inl hc.leavesCount, hh.concat hc.leavesCount hc.sparesBackends⟩
      stop := fun h r hh => hh.concludes r
      record := fun h c hh => (Ensures.of_invariant
        (A := fun c => c.LeavesCount ∧ c.SparesBackends)
        (recordCondition_only fun _ => ⟨trivial, trivial⟩) hh
        fun _ _ hh hc => ⟨.inl hc.1, hh.concat hc.1 hc.2⟩).mono fun _ _ hh r => hh.concludes r
      provision := fun h resource ns _ hh => provision_concludes hh.leave resource ns }
  exact hstages.reconcile ⟨fun _ he => (nomatch he), rfl⟩

/-- An attempt at the facade. -/
def attempt (interval : Duration) (now : Instant) (f : Facade k) :
    Program Step Step.Reply (Except Error Action × Action) := do
  let r ← (f.reconcile interval now).run
  match r with
  | .ok a => return (r, a)
  | .error e =>
    let a ← afterError (.facade k) interval f.key e
    return (r, a)

end Facade

namespace Attempt

/-- How an attempt ends: after a run that forgets the failures or leaves them counted, one failure
is counted if the run has failed and trying again can mend that. -/
inductive Ends (k : FacadeKind) (key : String) (interval : Duration) : Attempt → Prop
  | settled {h : List Event} (hh : LeaveCount h) (hasked : h.any Event.asksBackend = true)
    (a : Action) :
    Ends k key interval ⟨h ++ [⟨.memory (.forgetFailures (.facade k) key), ()⟩], .ok a, a⟩
  | unsettled {h : List Event} {a : Action} (hh : LeaveCount h)
    (ha : h.any Event.asksBackend = true → h.getLast?.any Event.meetsConflict = true) :
    Ends k key interval ⟨h, .ok a, a⟩
  | failed {h : List Event} {e : Error} (hh : LeaveCount h) (he : e.isRetryable = true)
    (d : Duration) :
    Ends k key interval
      ⟨h ++ [⟨.memory (.countFailure (.facade k) key), d⟩], .error e, .requeue d⟩
  | rejected {h : List Event} {e : Error} (hh : LeaveCount h) (he : e.isRetryable = false) :
    Ends k key interval ⟨h, .error e, .requeue interval⟩

end Attempt

theorem Facade.attempt_ends {k : FacadeKind} (f : Facade k) (interval : Duration) (now : Instant) :
    Program.Ensures (fun _ => Step.CountsFor k f.key)
      (fun o h => Attempt.Ends k f.key interval ⟨h, o.1, o.2⟩) (f.attempt interval now) [] := by
  refine Program.Ensures.bind (f.reconcile_concludes interval now) fun r h hr => ?_
  cases hr with
  | forget hh hasked a => exact .settled hh hasked a
  | leave hh hr =>
    cases r with
    | ok a => exact .unsettled hh (hr a rfl)
    | error e =>
      have hafter : Program.Ensures (fun _ => Step.CountsFor k f.key)
          (fun a h => Attempt.Ends k f.key interval ⟨h, .error e, a⟩)
          (afterError (.facade k) interval f.key e) h := by
        unfold afterError
        split
        · next he => exact ⟨.inr (.inr rfl), fun d => .failed hh he d⟩
        · next he => exact .rejected hh (Bool.eq_false_iff.2 he)
      exact hafter.bind fun a h ha => ha

/-! ## Counting -/

/-- With the event, the failures that are counted for the facade go from one number to another. -/
inductive Event.Counts (k : FacadeKind) (key : String) : Event → Nat → Nat → Prop
  | leave {c : Step} (hc : c.LeavesCount) (r : c.Reply) (n : Nat) : Counts k key ⟨c, r⟩ n n
  | forget (n : Nat) : Counts k key ⟨.memory (.forgetFailures (.facade k) key), ()⟩ n 0
  | fail (n : Nat) :
    Counts k key ⟨.memory (.countFailure (.facade k) key), Backoff.delay (n + 1)⟩ n (n + 1)

/-- With the events, the failures that are counted for the facade go from one number to another. -/
def Counted (k : FacadeKind) (key : String) : List Event → Nat → Nat → Prop
  | [], n, m => m = n
  | e :: h, n, m => ∃ l, e.Counts k key n l ∧ Counted k key h l m

section Counting

variable {k : FacadeKind} {key key' : String} {h h' : List Event} {n m : Nat}

theorem counted_append :
    Counted k key (h ++ h') n m ↔ ∃ l, Counted k key h n l ∧ Counted k key h' l m := by
  induction h generalizing n with
  | nil => simp [Counted]
  | cons e h ih => grind [Counted]

theorem counted_concat {e : Event} :
    Counted k key (h ++ [e]) n m ↔ ∃ l, Counted k key h n l ∧ e.Counts k key l m := by
  simp [counted_append, Counted]

theorem LeaveCount.counted (hh : LeaveCount h) (hcounted : Counted k key h n m) : m = n := by
  induction h generalizing n with
  | nil => exact hcounted
  | cons e h ih =>
    obtain ⟨he, hrest⟩ := List.forall_mem_cons.1 hh
    obtain ⟨l, hcounts, hcounted⟩ := hcounted
    cases hcounts with
    | leave => exact ih hrest hcounted
    | forget => exact he.elim
    | fail => exact he.elim

namespace Attempt

variable {interval : Duration} {a : Attempt}

/-- What an attempt makes of the number of failures, and what follows from it. -/
theorem Ends.counted (ha : a.Ends k key interval) (hcounted : Counted k key a.events n m) :
    m = (if a.settled then 0 else n + if a.failed then 1 else 0) ∧
      ∀ e, a.result = .error e →
        a.next = .requeue (if e.isRetryable then Backoff.delay m else interval) := by
  cases ha with
  | settled hh hasked a =>
    obtain ⟨l, -, hlast⟩ := counted_concat.1 hcounted
    cases hlast with
    | leave hc => exact hc.elim
    | forget => exact ⟨by simp [hasked, Event.meetsConflict], nofun⟩
  | unsettled hh ha =>
    obtain rfl := hh.counted hcounted
    refine ⟨?_, nofun⟩
    rw [settled_ok, failed_ok]
    grind
  | failed hh he d =>
    obtain ⟨l, hbefore, hlast⟩ := counted_concat.1 hcounted
    obtain rfl := hh.counted hbefore
    cases hlast with
    | leave hc => exact hc.elim
    | fail =>
      refine ⟨by simp [he], ?_⟩
      rintro _ ⟨⟩
      rw [if_pos he]
  | rejected hh he =>
    obtain rfl := hh.counted hcounted
    refine ⟨by simp [he], ?_⟩
    rintro _ ⟨⟩
    simp [he]

end Attempt

end Counting

namespace Memory

variable {k : FacadeKind} {key key' : String} {m : Memory} {c : MemoryCall} {n : Nat}

/-- The failures that are counted for a facade. -/
def counted (m : Memory) (k : FacadeKind) (key : String) : Nat := (m.failures (.facade k)).count key

theorem failures_answer (hc : Step.LeavesCount (.memory c)) :
    (m.answer c).2.failures = m.failures := by
  cases c <;> first
    | rfl
    | exact hc.elim

/-- The memory counts up to its greatest number. -/
theorem counts_answer (hc : Step.CountsFor k key (.memory c))
    (hn : m.counted k key = min n Backoff.maxCount) :
    ∃ n', Event.Counts k key ⟨.memory c, (m.answer c).1⟩ n n' ∧
      (m.answer c).2.counted k key = min n' Backoff.maxCount := by
  unfold counted at hn
  rcases hc with hc | hc | hc
  · refine ⟨n, .leave hc _ n, ?_⟩
    rw [counted, failures_answer hc, hn]
  · cases hc
    exact ⟨0, .forget n, by simp [counted, answer, withFailures]⟩
  · cases hc
    have hcount : min (min n Backoff.maxCount + 1) Backoff.maxCount =
        min (n + 1) Backoff.maxCount := by omega
    have hfail : ((m.failures (.facade k)).fail key).count key = min (n + 1) Backoff.maxCount := by
      rw [Backoff.count_fail_self, hn, hcount]
    have hreply : (m.answer (.countFailure (.facade k) key)).1 = Backoff.delay (n + 1) := by
      simp only [answer, Backoff.next, hfail, Backoff.delayFor_standard, Backoff.delay_min_maxCount,
        Option.getD_some]
    refine ⟨n + 1, hreply ▸ .fail n, ?_⟩
    simpa [counted, answer, withFailures, Backoff.next] using hfail

/-- What is counted for one facade is not counted for another. -/
theorem counted_answer_of_ne (hc : Step.CountsFor k key (.memory c)) (hkey : key' ≠ key) :
    (m.answer c).2.counted k key' = m.counted k key' := by
  unfold counted
  rcases hc with hc | hc | hc
  · rw [failures_answer hc]
  · cases hc
    simp [answer, withFailures, Backoff.count_reset_of_ne hkey]
  · cases hc
    simp [answer, withFailures, Backoff.next, Backoff.count_fail_of_ne hkey]

end Memory

end ControlPlane
