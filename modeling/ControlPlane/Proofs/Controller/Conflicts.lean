import ControlPlane.Proofs.Controller.ContestedGrants
import ControlPlane.Proofs.Controller.HiddenConflicts

/-!
# Conflicts do not surface

Writes meet conflicts where others have been faster. A facade whose backend or status met one, and a
policy round that met one, stop there and are repeated soon, while a condition that keeps a facade
from its backend is left unsaid and makes no difference. The grants controller goes on with the
other grants.
-/

namespace ControlPlane

open Controller

/-! ## Conflicts that end a run -/

/-- The step leaves the failures that were counted as they are. -/
def Step.LeavesCount : Step → Prop
  | .memory (.countFailure _ _) | .memory (.forgetFailures _ _) => False
  | _ => True

theorem Step.IsLookup.leavesCount {c : Step} (h : c.IsLookup) : c.LeavesCount := by
  unfold LeavesCount
  split <;> first
    | exact h
    | exact trivial

theorem Step.Prepares.leavesCount {c : Step} (h : c.Prepares) : c.LeavesCount := by
  unfold LeavesCount
  split <;> first
    | exact h
    | exact trivial

/-- No write has met a conflict, and the failures that were counted are as they were. -/
def Calm (h : List Event) : Prop := ∀ e ∈ h, ¬ e.Conflicted ∧ e.1.LeavesCount

/-- The last write has met a conflict, and all was calm before. -/
def Stopped (h : List Event) : Prop :=
  ∃ before e, h = before ++ [e] ∧ Calm before ∧ e.Conflicted ∧ e.1.LeavesCount

/-- No conflict was met, or one that ended the run, which is to be repeated soon. -/
def Halts (r : Except Error Action) (h : List Event) : Prop :=
  (∀ e ∈ h, ¬ e.Conflicted) ∨ r = .ok (.requeue conflictPause) ∧ Stopped h

theorem Calm.append {h t : List Event} (hh : Calm h) (ht : Calm t) : Calm (h ++ t) :=
  List.forall_mem_append.2 ⟨hh, ht⟩

theorem Calm.not_conflicted {h : List Event} (hh : Calm h) : ∀ e ∈ h, ¬ e.Conflicted :=
  fun e he => (hh e he).1

/-- A run that stopped has met a single conflict. -/
theorem Stopped.of_eq {before after : List Event} {e : Event}
    (h : Stopped (before ++ e :: after)) (he : e.Conflicted) :
    after = [] ∧ ∀ e' ∈ before ++ e :: after, e'.1.LeavesCount := by
  obtain ⟨before', e', heq, hcalm, -, hcount⟩ := h
  refine ⟨?_, fun d hd => ?_⟩
  · rcases List.append_eq_append_iff.1 heq with ⟨rest, rfl, hrest⟩ | ⟨rest, rfl, hrest⟩
    · cases rest with
      | nil => exact (List.cons.inj hrest).2
      | cons d rest =>
        obtain ⟨rfl, -⟩ := List.cons.inj hrest
        exact ((hcalm e (by simp)).1 he).elim
    · have hlength := congrArg List.length hrest
      simp only [List.length_append, List.length_cons, List.length_nil] at hlength
      exact List.eq_nil_of_length_eq_zero (by omega)
  · rw [heq] at hd
    rcases List.mem_append.1 hd with hd | hd
    · exact (hcalm d hd).2
    · obtain rfl := List.mem_singleton.1 hd
      exact hcount

namespace Controller

variable {α β : Type} {P : List Event → Step → Prop} {h : List Event}

/-- The run can go on in peace, or it has stopped at a conflict, as its result says. -/
def Goes (goes : α → Bool) : Except Error α → List Event → Prop
  | .ok a, h => if goes a then Calm h else Stopped h
  | .error _, h => ∀ e ∈ h, ¬ e.Conflicted

theorem Goes.halts {goes : α → Bool} {e : Error} (h' : Goes goes (.error e) h) :
    Halts (.error e) h := .inl h'

/-- A step that looks something up and keeps from the counted failures keeps the calm. -/
theorem calm_of_keeps {c : Step} (hkeeps : c.KeepsCluster) (hcount : c.LeavesCount) (hh : Calm h)
    (r : c.Reply) : Calm (h ++ [⟨c, r⟩]) := by
  refine hh.append (List.forall_mem_singleton.2 ⟨fun hconflict => ?_, hcount⟩)
  cases c with
  | memory c => exact hconflict
  | api c => exact hconflict.1 hkeeps

theorem ensures_calm {x : Controller α} (hx : Only (fun c => c.KeepsCluster ∧ c.LeavesCount) x)
    (hh : Calm h) : Ensures (fun _ _ => True) (fun _ h' => Calm h') x h :=
  .of_invariant hx hh fun _ _ hh hc => ⟨trivial, calm_of_keeps hc.1 hc.2 hh⟩

theorem calm_of_ok {c : Call} {a : c.Answer} (hh : Calm h) : Calm (h ++ [⟨.api c, .ok a⟩]) :=
  hh.append <| List.forall_mem_singleton.2
    ⟨fun hconflict => hconflict.not_succeeded ⟨a, rfl⟩, trivial⟩

theorem calm_of_error {c : Call} {e : Error} (he : e.isConflict = false) (hh : Calm h) :
    Calm (h ++ [⟨.api c, .error e⟩]) := by
  refine hh.append (List.forall_mem_singleton.2 ⟨?_, trivial⟩)
  rintro ⟨-, e', herror, hconflict⟩
  cases herror
  rw [he] at hconflict
  cases hconflict

theorem stopped_of_conflict {c : Call} (hc : ¬ Step.IsLookup (.api c)) {e : Error}
    (he : e.isConflict = true) (hh : Calm h) : Stopped (h ++ [⟨.api c, .error e⟩]) :=
  ⟨h, _, rfl, hh, ⟨hc, e, rfl, he⟩, trivial⟩

/-- A write goes through or meets a conflict. -/
theorem goes_write {c : Call} (hc : ¬ Step.IsLookup (.api c)) (hh : Calm h) :
    Ensures (fun _ _ => True) (Goes Option.isSome) (unlessConflict (api c)) h :=
  .unlessConflict_api trivial (fun _ => calm_of_ok hh) (fun _ he => stopped_of_conflict hc he hh)
    fun _ he => (calm_of_error he hh).not_conflicted

/-- What a run comes to after peace and nothing but memory. -/
theorem halts_of_memory {x : Controller Action} (hx : Only (fun c => ∃ call, c = .memory call) x)
    (hh : ∀ e ∈ h, ¬ e.Conflicted) : Ensures (fun _ _ => True) Halts x h := by
  refine (Ensures.of_only hx fun _ _ _ _ => trivial).mono ?_
  rintro r _ ⟨t, rfl, ht⟩
  refine .inl (List.forall_mem_append.2 ⟨hh, fun e he hconflict => ?_⟩)
  obtain ⟨c, reply⟩ := e
  obtain ⟨call, rfl⟩ := ht _ he
  exact hconflict

end Controller

namespace Facade

variable {k : FacadeKind} {h : List Event}

theorem syncBackend_goes (f : Facade k) (resource : ApiResource) (ns : String) (hh : Calm h) :
    Ensures (fun _ _ => True) (Goes Option.isSome) (f.syncBackend resource ns) h := by
  have hread (r : Except Error (Option Backend)) : Calm (f.asked resource ns h r) :=
    calm_of_keeps (c := .api (.getBackend resource ns f.metadata.anyName)) trivial trivial hh r
  refine syncBackend_ensures trivial ?unread ?unnamed ?missing ?refused ?current ?drifted
  case unread => exact fun e => (hread _).not_conflicted
  case unnamed => exact fun e => (hread _).not_conflicted
  case missing => exact fun b _ => goes_write id (hread _)
  case refused => exact fun b e _ => (hread _).not_conflicted
  case current => exact fun b _ _ => hread _
  case drifted => exact fun b _ _ => goes_write id (hread _)

theorem report_halts (f : Facade k) (interval : Duration) (x : Status k.Details) (hh : Calm h) :
    Ensures (fun _ _ => True) Halts (f.report interval x) h := by
  have hend {h : List Event} (hh : Calm h) : Ensures (fun _ _ => True) Halts (do
      memory (.forgetFailures (.facade k) f.key)
      return .requeue interval : Controller Action) h :=
    halts_of_memory (.bind (.memory ⟨_, rfl⟩) fun _ => .pure) hh.not_conflicted
  refine .ite (fun _ => ?_) fun _ => hend hh
  refine (goes_write (c := f.statusCall x) id hh).bind (fun _ _ _ hgoes => hgoes.halts) ?_
  intro written h₁ _ hgoes
  cases written with
  | none => exact .pure (.inr ⟨rfl, hgoes⟩)
  | some _ => exact hend hgoes

theorem provision_halts (f : Facade k) (interval : Duration) (now : Instant)
    (resource : ApiResource) (ns : String) (hh : Calm h) :
    Ensures (fun _ _ => True) Halts (f.provision interval now resource ns) h := by
  refine provision_ensures (f.syncBackend_goes resource ns hh) ?failed ?contested ?unreadable
    ?derived
  case failed => exact fun e h' hgoes => hgoes.halts
  case contested => exact fun h' hstopped => .inr ⟨rfl, hstopped⟩
  case unreadable => exact fun b e h' hcalm _ => .inl (Calm.not_conflicted hcalm)
  case derived => exact fun b x h' hcalm _ => f.report_halts interval x hcalm

/-! ### Before the backend is asked for -/

/-- The run has asked for a backend. -/
def AskedBackend (h : List Event) : Prop :=
  ∃ resource ns name r, (⟨.api (.getBackend resource ns name), r⟩ : Event) ∈ h

/-- A run that has asked for the backend halts at a conflict. -/
def HaltsAsked (r : Except Error Action) (h : List Event) : Prop := AskedBackend h → Halts r h

theorem not_askedBackend_append {t : List Event} (hh : ¬ AskedBackend h)
    (ht : ∀ e ∈ t, Step.SparesBackends e.1) : ¬ AskedBackend (h ++ t) := by
  rintro ⟨resource, ns, name, r, hmem⟩
  rcases List.mem_append.1 hmem with hmem | hmem
  · exact hh ⟨resource, ns, name, r, hmem⟩
  · exact ht _ hmem

theorem ensures_not_asked {α : Type} {x : Controller α} (hx : Only Step.SparesBackends x)
    (hh : ¬ AskedBackend h) : Ensures (fun _ _ => True) (fun _ h' => ¬ AskedBackend h') x h := by
  refine (Ensures.of_only hx fun _ _ _ _ => trivial).mono ?_
  rintro _ _ ⟨t, rfl, ht⟩
  exact not_askedBackend_append hh ht

/-- Nothing was written, and the backend is still to be asked for. -/
structure Unasked (h : List Event) : Prop where
  calm : Calm h
  asked : ¬ AskedBackend h

theorem unasked_prepared (hh : Unasked h) {c : Step} (hc : c.Prepares) (r : c.Reply) :
    Unasked (h ++ [⟨c, r⟩]) :=
  ⟨calm_of_keeps hc.keepsCluster hc.leavesCount hh.calm r,
    not_askedBackend_append hh.asked (List.forall_mem_singleton.2 hc.sparesBackends)⟩

theorem reconcile_halts (f : Facade k) (interval : Duration) (now : Instant) :
    Ensures (fun _ _ => True) HaltsAsked (f.reconcile interval now) [] := by
  have hstages : f.Stages interval now (fun _ _ => True) HaltsAsked Unasked :=
    { lookup := fun h c hh hc _ => ⟨trivial, unasked_prepared hh hc⟩
      stop := fun h r hh _ => .inl hh.calm.not_conflicted
      record := fun h c hh => (ensures_not_asked (recordCondition_only fun _ => trivial) hh.asked).mono
        fun _ _ hh r hasked => (hh hasked).elim
      provision := fun h resource ns _ hh =>
        (f.provision_halts interval now resource ns hh.calm).mono fun _ _ hhalts _ => hhalts }
  refine hstages.reconcile ⟨fun _ he => (nomatch he), ?_⟩
  rintro ⟨_, _, _, _, hmem⟩
  cases hmem

/-! ### Conflicts that make no difference -/

/-- The call looks something up, or it writes the status of the facade and the program goes on after
a conflict as if the status had been written. -/
def Forgives {α : Type} (f : Facade k) : (c : Step) → (c.Reply → Program Step Step.Reply α) → Prop
  | .memory _, _ => True
  | .api c, next => Step.IsLookup (.api c) ∨ (∃ x, c = f.statusCall x) ∧
    ∀ e : Error, e.isConflict = true → ∃ a, next (.error e) = next (.ok a)

/-- Up to where it asks for a backend, conflicts make no difference to the program. -/
def Shrugs {α : Type} (f : Facade k) : Program Step Step.Reply α → Prop
  | .done _ => True
  | .call c next => (∃ resource ns name, c = .api (.getBackend resource ns name)) ∨
    f.Forgives c next ∧ ∀ r, f.Shrugs (next r)

theorem Forgives.bind {α β : Type} {f : Facade k} {c : Step}
    {next : c.Reply → Program Step Step.Reply α} (h : f.Forgives c next)
    (g : α → Program Step Step.Reply β) : f.Forgives c fun r => (next r).bind g := by
  cases c with
  | memory c => exact trivial
  | api c =>
    refine h.imp_right fun ⟨hstatus, hconflict⟩ => ⟨hstatus, fun e he => ?_⟩
    obtain ⟨a, ha⟩ := hconflict e he
    exact ⟨a, congrArg (Program.bind · g) ha⟩

namespace Shrugs

variable {α β : Type} {f : Facade k}

theorem program_bind {p : Program Step Step.Reply α} {g : α → Program Step Step.Reply β}
    (hp : f.Shrugs p) (hg : ∀ a, f.Shrugs (g a)) : f.Shrugs (p.bind g) := by
  induction p with
  | done a => exact hg a
  | call c next ih => exact hp.imp_right fun ⟨hc, hnext⟩ => ⟨hc.bind g, fun r => ih r (hnext r)⟩

protected theorem bind {x : Controller α} {g : α → Controller β} (hx : f.Shrugs x.run)
    (hg : ∀ a, f.Shrugs (g a).run) : f.Shrugs (x >>= g).run := by
  refine program_bind hx fun r => ?_
  cases r with
  | ok a => exact hg a
  | error e => exact trivial

protected theorem tryCatch {x : Controller α} {handle : Error → Controller α}
    (hx : f.Shrugs x.run) (hhandle : ∀ e, f.Shrugs (handle e).run) :
    f.Shrugs (tryCatch x handle).run := by
  refine program_bind hx fun r => ?_
  cases r with
  | ok a => exact trivial
  | error e => exact hhandle e

theorem of_lookups {x : Controller α} (hx : Only Step.KeepsCluster x) : f.Shrugs x.run := by
  have hp (p : Program Step Step.Reply (Except Error α)) (hp : p.Only Step.KeepsCluster) :
      f.Shrugs p := by
    induction p with
    | done r => exact trivial
    | call c next ih =>
      refine .inr ⟨?_, fun r => ih r (hp.2 r)⟩
      cases c with
      | memory c => exact trivial
      | api c => exact .inl hp.1
  exact hp x.run hx

/-- The status of a condition is written, and a conflict is let pass. -/
theorem recordCondition (f : Facade k) (c : Condition) : f.Shrugs (f.recordCondition c).run := by
  have hwrite (x : Status k.Details) : f.Shrugs (do
      let _ ← unlessConflict (f.writeStatus x)
      return () : Controller Unit).run := by
    have hnext (e : Error) : (do
        let _ ← (if e.isConflict then pure none else throw e : Controller (Option Unit))
        return () : Controller Unit).run =
        if e.isConflict then .done (.ok ()) else .done (.error e) := by
      cases e.isConflict <;> rfl
    refine .inr ⟨.inr ⟨⟨x, rfl⟩, fun e he => ⟨(), (hnext e).trans (if_pos he)⟩⟩, fun r => ?_⟩
    cases r with
    | ok _ => exact trivial
    | error e =>
      refine cast (congrArg f.Shrugs (hnext e).symm) ?_
      split <;> exact trivial
  unfold Facade.recordCondition
  split
  split
  · exact hwrite _
  · exact trivial

/-- Where the program gets a conflict before it asks for a backend, it would have come to the same
if the status had been written. -/
theorem replays {p : Program Step Step.Reply α} (hp : f.Shrugs p) {before after : List Event}
    {e : Event} {a : α} (h : p.Replays (before ++ e :: after) a) (he : e.Conflicted)
    (hbefore : ¬ AskedBackend before) : ∃ x, e.1 = .api (f.statusCall x) ∧
      p.Replays (before ++ ⟨.api (f.statusCall x), .ok ()⟩ :: after) a := by
  induction p generalizing before with
  | done a => cases before <;> cases h.1
  | call c next ih =>
    obtain ⟨r, rest, heq, hrest⟩ := h
    cases before with
    | nil =>
      obtain ⟨rfl, rfl⟩ := List.cons.inj heq
      rcases hp with ⟨resource, ns, name, rfl⟩ | ⟨hc, -⟩
      · exact (he.not_isLookup trivial).elim
      cases c with
      | memory c => exact he.elim
      | api c =>
        obtain ⟨hlookup, e, rfl, hconflict⟩ := he
        obtain ⟨⟨x, rfl⟩, hsame⟩ := hc.resolve_left hlookup
        obtain ⟨_, hsame⟩ := hsame e hconflict
        exact ⟨x, rfl, _, _, rfl, hsame ▸ hrest⟩
    | cons d before =>
      obtain ⟨rfl, rfl⟩ := List.cons.inj heq
      rcases hp with ⟨resource, ns, name, rfl⟩ | ⟨-, hnext⟩
      · exact (hbefore ⟨resource, ns, name, r, List.mem_cons_self⟩).elim
      have hbefore' : ¬ AskedBackend before := fun ⟨resource, ns, name, r', hmem⟩ =>
        hbefore ⟨resource, ns, name, r', List.mem_cons_of_mem _ hmem⟩
      obtain ⟨x, hx, hreplays⟩ := ih r (hnext r) hrest hbefore'
      exact ⟨x, hx, r, _, rfl, hreplays⟩

end Shrugs

theorem provider_shrugs (f : Facade k) (now : Instant) (name : String) :
    f.Shrugs (Facade.provider now f name).run := by
  have hfind : Only Step.KeepsCluster (Controller.provider name f.key) :=
    Program.Only.mono (provider_only (k := k) name f.key) fun _ hc => hc.isLookup.keepsCluster
  refine .tryCatch (.of_lookups hfind) fun e => ?_
  cases e with
  | providerNotFound provider resource =>
    exact .bind (.recordCondition f _) fun _ => .of_lookups .throw
  | _ => exact .of_lookups .throw

theorem proceed_shrugs (f : Facade k) (interval : Duration) (now : Instant) (ns name : String) :
    f.Shrugs (f.proceed interval now ns name).run := by
  have hresource (p : Provider) : Only Step.KeepsCluster (backendResource p k) :=
    backendResource_only (fun _ => trivial) (fun _ _ => trivial) (fun _ _ => trivial) p k
  rw [proceed_eq]
  refine .bind (f.provider_shrugs now name) fun p => ?_
  refine .bind (.of_lookups (hresource p)) fun resource => ?_
  refine .bind (.of_lookups (.memory trivial)) fun _ => ?_
  exact .inl ⟨resource, ns, _, rfl⟩

theorem reconcile_shrugs (f : Facade k) (interval : Duration) (now : Instant) :
    f.Shrugs (f.reconcile interval now).run := by
  refine f.reconcile_cases (motive := fun x => f.Shrugs x.run) interval now trivial
    (fun ns _ => f.proceed_shrugs interval now ns) fun a _ => ?_
  refine .bind (.of_lookups (Program.Only.mono (gate_only a)
    fun _ hc => hc.isLookup.keepsCluster)) fun verdict => ?_
  cases verdict with
  | ok name => exact f.proceed_shrugs interval now a.ns name
  | error o => exact .bind (.recordCondition f _) fun _ => .of_lookups (.lift _)

end Facade

/-! ## Policies -/

namespace Policy

variable {h : List Event}

theorem writeStatus_goes (ns : String) (p : Policy) (s : PolicyStatus) (hh : Calm h) :
    Ensures (fun _ _ => True) (Goes id) (writeStatus ns p s) h := by
  let c : Call := .patchPolicyStatus ns p.metadata.anyName p.metadata.resourceVersion s
  have hcall : Ensures (fun _ _ => True) (fun r h' => h' = h ++ [⟨.api c, r⟩]) (api c) h :=
    .api trivial fun _ => rfl
  have hwrite : Ensures (fun _ _ => True)
      (fun r h' => (∀ a, r = .ok a → a = true ∧ Calm h') ∧
        ∀ e, r = .error e → h' = h ++ [⟨.api c, .error e⟩])
      (do api c; return true) h := by
    refine hcall.bind (fun e _ _ he => ?_) fun a _ _ ha => .pure ?_
    · subst he
      exact ⟨nofun, fun e' he' => by cases he'; rfl⟩
    · subst ha
      exact ⟨fun a' ha' => by cases ha'; exact ⟨rfl, calm_of_ok hh⟩, nofun⟩
  refine hwrite.tryCatch (fun a _ _ ha => ?_) fun e _ _ he => ?_
  · obtain ⟨rfl, hcalm⟩ := ha.1 a rfl
    exact hcalm
  · obtain rfl := he.2 e rfl
    cases hconflict : e.isConflict with
    | true => exact stopped_of_conflict (c := c) id hconflict hh
    | false =>
      have hcalm : Calm (h ++ [⟨.api c, .error e⟩]) := calm_of_error hconflict hh
      exact .ite nofun fun _ => .ite (fun _ => .pure hcalm) fun _ => .throw hcalm.not_conflicted

theorem announce_goes (now : Instant) (ns winner : String) (policies : List Policy)
    (hh : Calm h) : Ensures (fun _ _ => True) (Goes id) (announce now ns winner policies) h := by
  induction policies generalizing h with
  | nil => exact hh
  | cons p rest ih =>
    have hrest {settled : Bool} {h' : List Event} (hgoes : Goes id (.ok settled) h') :
        Ensures (fun _ _ => True) (Goes id)
          (if settled then announce now ns winner rest else return false) h' := by
      cases settled with
      | true => exact ih hgoes
      | false => exact .pure hgoes
    unfold announce
    split
    exact .ite
      (fun _ => (writeStatus_goes ns p _ hh).bind (fun _ _ _ hgoes => hgoes)
        fun _ _ _ hgoes => hrest hgoes)
      fun _ => (Ensures.pure (a := true) (Q := Goes id) hh).bind (fun _ _ _ hgoes => hgoes)
        fun _ _ _ hgoes => hrest hgoes

theorem reconcile_halts (p : Policy) (interval : Duration) (now : Instant) :
    Ensures (fun _ _ => True) Halts (Policy.reconcile interval now p) [] := by
  have hh : Calm [] := fun _ he => (nomatch he)
  cases hns : p.metadata.ns with
  | none =>
    unfold Policy.reconcile
    simp only [hns]
    exact .throw (.inl hh.not_conflicted)
  | some ns =>
    rw [ControlPlane.reconcile_eq hns]
    refine (ensures_calm (.api (c := .listPolicies ns) ⟨trivial, trivial⟩) hh).bind
      (fun _ _ _ hcalm => .inl hcalm.not_conflicted) fun policies h₁ _ hcalm => ?_
    unfold arbitrate
    cases governing? (sort policies) with
    | none => exact .pure (.inl hcalm.not_conflicted)
    | some winner =>
      refine (announce_goes now ns _ _ hcalm).bind (fun _ _ _ hgoes => hgoes.halts) ?_
      intro settled h₂ _ hgoes
      cases settled with
      | true => exact halts_of_memory (.bind (.memory ⟨_, rfl⟩) fun _ => .pure) hgoes.not_conflicted
      | false => exact .pure (.inr ⟨rfl, hgoes⟩)

end Policy

/-! ## All controllers -/

/-- What a run that halts comes to when it meets a conflict. -/
theorem Halts.of_eq {r : Except Error Action} {before after : List Event} {e : Event}
    (h : Halts r (before ++ e :: after)) (he : e.Conflicted) :
    r = .ok (.requeue conflictPause) ∧ after = [] ∧
      ∀ d ∈ before ++ e :: after, d.1.LeavesCount := by
  rcases h with hnone | ⟨hr, hstopped⟩
  · exact (hnone e (by simp) he).elim
  · exact ⟨hr, hstopped.of_eq he⟩

/-- Conflicts never surface: where nothing fails but writes that meet conflicts, no controller fails
with one. A facade that meets one past its gate asks to be repeated after a second, does nothing
more and leaves its failures counted as they were; the conflict of a condition that is written
before makes no difference to the run. A policy asks to be repeated after a second and does nothing
more. The grants of a live namespace ask to be repeated after a second if and only if there was a
conflict, or this is their usual interval, and every grant holds none of whose own writes met one. -/
theorem conflicts_never_surface {σ : Type} (answer : (c : Step) → σ → c.Reply × σ)
    (interval : Duration) (s s' : σ) (t : List Event) (r : Except Error Action)
    (ht : OnlyConflicts t) :
    (∀ id now j x, ControllerId.reconcile interval now j id = .ok x → Runs answer x s t r s' →
      ∀ e, r = .error e → e.isConflict = false) ∧
    (∀ (k : FacadeKind) (f : Facade k) now, Runs answer (f.reconcile interval now) s t r s' →
      ∀ before e after, t = before ++ e :: after → e.Conflicted →
        (Facade.AskedBackend before ∨ (¬ ∃ x, e.1 = .api (f.statusCall x)) →
          r = .ok (.requeue (.ofSeconds 1)) ∧ after = [] ∧ ∀ d ∈ t, d.1.LeavesCount) ∧
        (¬ Facade.AskedBackend before → ∃ x, e.1 = .api (f.statusCall x) ∧
          Replays (f.reconcile interval now)
            (before ++ ⟨.api (f.statusCall x), .ok ()⟩ :: after) r)) ∧
    (∀ (p : Policy) now, Runs answer (Policy.reconcile interval now p) s t r s' →
      ∀ before e after, t = before ++ e :: after → e.Conflicted →
        r = .ok (.requeue (.ofSeconds 1)) ∧ after = []) ∧
    ∀ n : Namespace, Runs answer (n.reconcile interval) s t r s' →
      n.metadata.deletionTimestamp = none → n.ToldOwners t →
        (r = .ok (.requeue (.ofSeconds 1)) ↔
          (∃ e ∈ t, e.Conflicted) ∨ interval = .ofSeconds 1) ∧
        ((¬ ∃ e ∈ t, e.Conflicted) → r = .ok (.requeue interval)) ∧
        ∃ gs t₁ s₁, Runs answer (grants n.metadata.anyName) s t₁ (.ok gs) s₁ ∧
          ∀ g ∈ gs.tenants ++ gs.inventories, Namespace.Holds g t := by
  refine ⟨?_, ?_, ?_, ?_⟩
  · rintro id now j x hx hrun e rfl
    refine Bool.eq_false_iff.2 fun hconflict => ?_
    obtain ⟨c, hc, hmem⟩ := (ControllerId.reconcile_hides hx []).of_runs hrun e rfl hconflict
    rcases ht _ hmem with ⟨a, ha⟩ | hconflicted
    · cases ha
    · exact hconflicted.1 hc
  · rintro k f now hrun before e after rfl he
    have hforgiven (hbefore : ¬ Facade.AskedBackend before) :=
      (f.reconcile_shrugs interval now).replays (Replays.of_runs hrun) he hbefore
    refine ⟨fun hasked => ?_, hforgiven⟩
    have hbefore : Facade.AskedBackend before := by
      refine Classical.byContradiction fun hbefore => ?_
      obtain ⟨x, hx, -⟩ := hforgiven hbefore
      exact hasked.elim hbefore fun hother => hother ⟨x, hx⟩
    obtain ⟨resource, ns, name, reply, hmem⟩ := hbefore
    exact ((f.reconcile_halts interval now).of_runs hrun
      ⟨resource, ns, name, reply, by simp [hmem]⟩).of_eq he
  · rintro p now hrun before e after rfl he
    obtain ⟨hr, hafter, -⟩ := ((p.reconcile_halts interval now).of_runs hrun).of_eq he
    exact ⟨hr, hafter⟩
  · intro n hrun hn htold
    obtain ⟨gs, t₁, s₁, hask, habsorbs⟩ := Namespace.reconcile_absorbs hn hrun ht htold
    refine ⟨⟨fun hr => ?_, fun h => ?_⟩, habsorbs.settled, gs, t₁, s₁, hask, habsorbs.holds⟩
    · by_cases hconflict : ∃ e ∈ t, e.Conflicted
      · exact .inl hconflict
      · have hsettled := hr.symm.trans (habsorbs.settled hconflict)
        exact .inr (Action.requeue.inj (Except.ok.inj hsettled)).symm
    · rcases h with hconflict | hinterval
      · exact habsorbs.conflicted hconflict
      · by_cases hconflict : ∃ e ∈ t, e.Conflicted
        · exact habsorbs.conflicted hconflict
        · exact hinterval ▸ habsorbs.settled hconflict

/-- The event is a failure. -/
def Event.failed : Event → Bool
  | ⟨.api _, .error _⟩ => true
  | _ => false

/-- If the event is a failure, it is a conflict of such a write. -/
def Event.failsOnly (writes : Call → Bool) : Event → Bool
  | ⟨.api c, .error e⟩ => e.isConflict && writes c
  | _ => true

/-- Events can be checked for the writes that failed. -/
theorem conflicted_of_all {t : List Event} (writes : Call → Bool)
    (hwrites : ∀ c, writes c = true → ¬ Step.IsLookup (.api c))
    (h : t.all (Event.failsOnly writes) = true) :
    ∀ e ∈ t, e.Succeeded ∨ e.Conflicted ∧ ∃ c, e.1 = .api c ∧ writes c = true := by
  rintro ⟨c, r⟩ he
  have hevent := List.all_eq_true.1 h _ he
  cases c with
  | memory c => exact .inl trivial
  | api c =>
    cases r with
    | ok a => exact .inl ⟨a, rfl⟩
    | error e =>
      obtain ⟨hconflict, hc⟩ := Bool.and_eq_true_iff.1 hevent
      exact .inr ⟨⟨hwrites c hc, e, rfl, hconflict⟩, c, rfl, hc⟩

theorem exists_failed_of_any {t : List Event} (h : t.any Event.failed = true) :
    ∃ e ∈ t, ¬ e.Succeeded := by
  obtain ⟨e, he, hevent⟩ := List.any_eq_true.1 h
  unfold Event.failed at hevent
  split at hevent
  case h_2 => cases hevent
  exact ⟨_, he, fun ⟨a, ha⟩ => by cases ha⟩

/-- The call creates a backend. -/
def Call.createsBackend : Call → Bool
  | .createBackend _ _ _ => true
  | _ => false

/-- The call creates the role of this name. -/
def Call.createsRole (name : String) : Call → Bool
  | .createRole _ role => role.metadata.anyName = name
  | _ => false

/-- The backend of an inventory is created by somebody else, and so is the role of one of two
grants. -/
theorem conflicts_never_surface_among_creators :
    let conflict : Error := .cluster (.api ⟨"Failure", "exists", "AlreadyExists", 409⟩)
    let inventory (name uid : String) : Json := .object
      [("metadata", .object [("name", .string name), ("namespace", .string "team"),
          ("uid", .string uid)]),
        ("spec", .object [("credentialsRef", .object [("name", .string "key")]),
          ("providerRef", .object [("name", .string "bridge")])])]
    let spec : InventorySpec := ⟨⟨"bridge"⟩, ⟨"key"⟩, none, ⟨none, none, none⟩⟩
    let f : Facade .inventory :=
      ⟨⟨{ name := some "orders", ns := some "team", uid := some "u1" }, spec⟩, none⟩
    let p : Provider := ⟨{ name := some "bridge" },
      ⟨⟨"bridge", none, none⟩, none, "Vault", "Link", "Base", [], []⟩⟩
    let s : Simulation :=
      { cluster :=
          { objects := fun c =>
              if c = .facades .inventory then
                [inventory "orders" "u1", inventory "sales" "u2"]
              else [] }
        memory := { providers := some ⟨[(p.metadata.ref, p)]⟩ }
        outages := [⟨"create_backend", conflict, 1⟩, ⟨"create_role", conflict, 1⟩] }
    let n : Namespace := ⟨{ name := some "team" }⟩
    (∃ t s', Runs Simulation.answer (f.reconcile (.ofSeconds 60) ⟨0, 0⟩) s t
        (.ok (.requeue (.ofSeconds 1))) s' ∧ ∀ d ∈ t, d.1.LeavesCount) ∧
      ∃ t s', ∃ g : Grant, Runs Simulation.answer (n.reconcile (.ofSeconds 60)) s t
        (.ok (.requeue (.ofSeconds 1))) s' ∧
        g.viewed.roleName = "dbaas-inventory-sales-viewer" ∧ g.viewed.HasRole s'.cluster ∧
        g.viewed.HasBinding g.subjects s'.cluster := by
  intro conflict inventory spec f p s n
  refine ⟨?_, ?_⟩
  · have hrun := Runs.refl Simulation.answer (f.reconcile (.ofSeconds 60) ⟨0, 0⟩) s
    have ht := conflicted_of_all
      (t := trace Simulation.answer (f.reconcile (.ofSeconds 60) ⟨0, 0⟩) s)
      Call.createsBackend
      (fun c hc => by cases c <;> first | exact id | cases hc)
      (by decide +kernel +zetaReduce)
    obtain ⟨e, he, hfailed⟩ := exists_failed_of_any
      (t := trace Simulation.answer (f.reconcile (.ofSeconds 60) ⟨0, 0⟩) s)
      (by decide +kernel +zetaReduce)
    obtain ⟨hconflict, c, hc, hcreates⟩ := (ht e he).resolve_left hfailed
    obtain ⟨before, after, heq⟩ := List.append_of_mem he
    obtain ⟨-, hfacade, -⟩ := conflicts_never_surface Simulation.answer (.ofSeconds 60) _ _ _ _
      fun e he => (ht e he).imp_right And.left
    have hother : ¬ ∃ x, e.1 = .api (f.statusCall x) := by
      rintro ⟨x, hx⟩
      obtain rfl := Step.api.inj (hc.symm.trans hx)
      cases hcreates
    obtain ⟨hr, -, hcount⟩ := (hfacade _ f ⟨0, 0⟩ hrun before e after heq hconflict).1 (.inr hother)
    exact ⟨_, _, hr ▸ hrun, hcount⟩
  · let orders : Inventory :=
      ⟨⟨{ name := some "orders", ns := some "team", uid := some "u1" }, spec⟩, none⟩
    let sales : Inventory :=
      ⟨⟨{ name := some "sales", ns := some "team", uid := some "u2" }, spec⟩, none⟩
    have hcanonical : ∀ j ∈ [inventory "orders" "u1", inventory "sales" "u2"], j.Canonical := by
      simp only [inventory, List.forall_mem_cons, List.not_mem_nil, false_implies,
        implies_true, Json.Canonical, Json.CanonicalMembers, Dict.Sorted, and_true]
      decide
    have hs : s.system.cluster.Orderly := by
      refine ⟨fun c j hj => hcanonical j ?_, fun c hc => ?_⟩
      · simp only [s, Simulation.system] at hj
        split at hj <;> simp_all
      · simp only [s, Simulation.system]
        split
        · next heq =>
          subst heq
          exact hc.elim
        · simp
    let gs := grantsFor "team" [orders, sales] [] .empty
    let s₀ := (Simulation.answer (.api (.listInventories "team")) s).2
    let s₁ := (Simulation.answer (.api (.listTenants "team")) s₀).2
    have hinventories : Simulation.answer (.api (.listInventories "team")) s =
      (.ok [orders, sales], s₀) := rfl
    have htenants : Simulation.answer (.api (.listTenants "team")) s₀ = (.ok [], s₁) :=
      Prod.ext (congrArg Except.ok List.mergeSort_nil) rfl
    let t₁ : List Event := [⟨.api (.listInventories "team"), .ok [orders, sales]⟩,
      ⟨.api (.listTenants "team"), .ok []⟩]
    have hgrants : Runs Simulation.answer (grants "team") s t₁ (.ok gs) s₁ :=
      .bind (.api hinventories) (.bind_nil (.api htenants) ⟨rfl, rfl⟩)
    let t₂ := trace Simulation.answer (Namespace.settle (.ofSeconds 60) n gs) s₁
    have hsettle := Runs.refl Simulation.answer (Namespace.settle (.ofSeconds 60) n gs) s₁
    obtain ⟨r, s', hrun⟩ : ∃ r s',
        Runs Simulation.answer (n.reconcile (.ofSeconds 60)) s (t₁ ++ t₂) r s' := by
      rw [Namespace.reconcile_eq_settle rfl]
      exact ⟨_, _, hgrants.bind hsettle⟩
    have htold : n.ToldOwners (t₁ ++ t₂) := by
      have hquestions (e : Event) (he : e ∈ t₁ ++ t₂) (hq : e.1.IsGrantQuestion "team") :
          e ∈ t₁ := by
        rcases List.mem_append.1 he with he | he
        · exact he
        · exact ((Namespace.settle_only (n := n) gs).forall_events hsettle e he hq).elim
      refine ⟨fun tenants htenants => ?_, fun inventories hinventories => ?_⟩
      · rcases List.mem_cons.1 (hquestions _ htenants rfl) with hfirst | hmem
        · cases hfirst
        · cases List.mem_singleton.1 hmem
          exact ⟨List.nodup_nil, fun _ hm => (List.not_mem_nil hm).elim⟩
      · rcases List.mem_cons.1 (hquestions _ hinventories rfl) with hfirst | hmem
        · cases hfirst
          exact ⟨by decide, by simp [orders, sales]⟩
        · cases List.mem_singleton.1 hmem
    have ht := conflicted_of_all (t := t₁ ++ t₂) (Call.createsRole "dbaas-inventory-orders-viewer")
      (fun c hc => by cases c <;> first | exact id | cases hc)
      (by decide +kernel +zetaReduce)
    have hmet : ∃ e ∈ t₁ ++ t₂, e.Conflicted := by
      obtain ⟨e, he, hfailed⟩ := exists_failed_of_any (t := t₁ ++ t₂)
        (by decide +kernel +zetaReduce)
      exact ⟨e, he, ((ht e he).resolve_left hfailed).1⟩
    obtain ⟨-, -, -, hnamespace⟩ := conflicts_never_surface Simulation.answer (.ofSeconds 60)
      _ _ _ _ fun e he => (ht e he).imp_right And.left
    obtain ⟨hsoon, -, gs', _, _, hgrants', hholds⟩ := hnamespace n hrun rfl htold
    obtain ⟨-, hgs, -⟩ := hgrants.unique hgrants'
    obtain rfl := Except.ok.inj hgs
    let g : Grant := ⟨sales.viewed "team", inventoryViewers [] sales⟩
    have hown : ∀ e ∈ t₁ ++ t₂, e.Conflicted → ¬ e.1.WritesFor g.viewed := by
      intro e he hconflict hwrites
      obtain ⟨-, c, hc, hcreates⟩ := (ht e he).resolve_left hconflict.not_succeeded
      have hname : g.viewed.roleName ≠ "dbaas-inventory-orders-viewer" := by decide
      unfold Step.WritesFor at hwrites
      generalize g.viewed.roleName = name at hwrites hname
      rw [hc] at hwrites
      rcases hwrites with ⟨rules, hwrites⟩ | hwrites
      · cases hwrites with
        | create => exact hname (of_decide_eq_true hcreates)
        | patch => cases hcreates
      · cases hwrites <;> cases hcreates
    obtain ⟨hrole, hbinding⟩ := hholds g (List.mem_append_right _ (by simp [gs, grantsFor, g])) hown
      _ _ hs (Simulation.fallible.serves _ hrun)
    exact ⟨_, _, g, hsoon.2 (.inl hmet) ▸ hrun, rfl, hrole, hbinding⟩

end ControlPlane
