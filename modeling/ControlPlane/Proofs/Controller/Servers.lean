import ControlPlane.Proofs.Cluster.Versions
import ControlPlane.Proofs.Controller.Convergence
import ControlPlane.Proofs.Controller.Facade
import ControlPlane.Proofs.Controller.Failures
import ControlPlane.Proofs.Controller.Operation
import ControlPlane.Proofs.Controller.Verdicts

/-!
# Servers

What the controllers rely on of the server that answers their calls. `ServerLaws` says for each sort
of call what it does to the objects that are stored, whatever else the server keeps, and leaves it
free to refuse any call. A cluster obeys the laws, and so does a simulation with outages. What runs
bring about on a cluster they bring about on every server that obeys the laws: the main results are
`facade_idles`, `grants_converge`, `policies_settle` and, for many runs at once,
`Operation.Hosted.backends_owned`.
-/

namespace ControlPlane

/-- The object that a call creates, and where. -/
def Call.creation? : Call → Option (Target × Json)
  | .createBackend resource ns b =>
    some (Cluster.backend resource ns b.metadata.anyName, GenericObject.codec.encode b)
  | .createRole scope r =>
    some (Cluster.role scope r.metadata.anyName, (Role.codec scope.breadth).encode r)
  | .createBinding scope b =>
    some (Cluster.binding scope b.metadata.anyName, (RoleBinding.codec scope.breadth).encode b)
  | _ => none

/-- The reply belongs to a write that has stored `j`: a backend is answered as it is stored, and of
other objects only the success is. -/
def Call.Confirms : (c : Call) → Json → c.Reply → Prop
  | .createBackend _ _ _, j, r => r = Cluster.readAs GenericObject.codec j
  | .replaceBackend _ _ _, j, r => r = Cluster.readAs GenericObject.codec j
  | _, _, r => ∃ a, r = .ok a

theorem Call.exists_confirms (c : Call) (j : Json) : ∃ r, c.Confirms j r := by
  cases c
  case createBackend => exact ⟨_, rfl⟩
  case replaceBackend => exact ⟨_, rfl⟩
  case review => exact ⟨.ok .empty, _, rfl⟩
  all_goals exact ⟨.ok default, _, rfl⟩

theorem Call.cases_effect (c : Call) : Step.IsLookup (.api c) ∨
    (∃ t j, c.creation? = some (t, j)) ∨ c.NamesVersion ∨
    ∃ scope name, c = .deleteBinding scope name := by
  cases c <;> simp [Step.IsLookup, creation?, NamesVersion]

/-! ## Laws -/

section

variable {σ : Type}

/-- The call fails and changes nothing that is stored. -/
def Refuses (answer : (c : Call) → σ → c.Reply × σ) (store : σ → Cluster) (c : Call) (s : σ) :
    Prop :=
  ∃ e, (answer c s).1 = .error e ∧ store (answer c s).2 = store s

/-- What a server does with a call that it does not refuse. -/
structure ServerLaws (answer : (c : Call) → σ → c.Reply × σ) (store : σ → Cluster) : Prop where
  /-- What is stored is told as it is. -/
  lookup (c : Call) (hc : Step.IsLookup (.api c)) (s : σ) : Refuses answer store c s ∨
    (answer c s).1 = ((store s).answer c).1 ∧ store (answer c s).2 = store s
  /-- Where there is no object yet, one is stored as it was sent, under the next version. -/
  create (c : Call) (t : Target) (j : Json) (hc : c.creation? = some (t, j)) (s : σ) :
    Refuses answer store c s ∨ (store s).find? t = none ∧
      let j' := j.withResourceVersion (store s).nextVersion
      store (answer c s).2 = (store s).created t j' ∧ c.Confirms j' (answer c s).1
  /-- An object that is there, in the version that is named if one is, is changed as the call says
  and stored under the next version. The patch of a status is merged into the one that is there. -/
  change (c : Call) (hc : c.NamesVersion) (s : σ) : Refuses answer store c s ∨
    ∃ w old, c.rewrite? = some w ∧ (store s).find? w.target = some old ∧
      (w.version = none ∨ w.version = old.resourceVersion?) ∧
      let j := (w.change old).withResourceVersion (store s).nextVersion
      store (answer c s).2 = (store s).replaced w.target j ∧ c.Confirms j (answer c s).1
  /-- A binding that is deleted is gone, and it is fine if there was none. -/
  delete (scope : Scope) (name : String) (s : σ) :
    Refuses answer store (.deleteBinding scope name) s ∨
      (answer (.deleteBinding scope name) s).1 = .ok () ∧
      store (answer (.deleteBinding scope name) s).2 = (store s).remove (Cluster.binding scope name)

end

namespace Cluster

variable {s : Cluster} {c : Call} {t : Target} {j : Json} {w : Rewrite} {r : c.Reply}

theorem answer_of_none (hc : c.creation? = some (t, j)) (h : s.find? t = none)
    (hr : c.Confirms (j.withResourceVersion s.nextVersion) r) :
    s.answer c = (r, s.created t (j.withResourceVersion s.nextVersion)) := by
  cases c <;> cases hc
  case createBackend => simp only [answer, create_of_none h, show r = _ from hr]; rfl
  all_goals
    obtain ⟨a, rfl⟩ := hr
    simp only [answer, create_of_none h]
    rfl

theorem answer_of_current (hw : c.rewrite? = some w) (h : s.find? w.target = some j)
    (hversion : w.version = none ∨ w.version = j.resourceVersion?)
    (hr : c.Confirms ((w.change j).withResourceVersion s.nextVersion) r) :
    s.answer c = (r, s.replaced w.target ((w.change j).withResourceVersion s.nextVersion)) := by
  cases c <;> try cases hw
  case replaceBackend => simp only [answer, update_of_current h hversion, show r = _ from hr]; rfl
  case patchFacadeStatus resource ns name version patch =>
    obtain ⟨k, hk, rfl⟩ := Option.map_eq_some_iff.1 hw
    obtain ⟨a, rfl⟩ := hr
    simp only [answer, hk, update_of_current h hversion]
    rfl
  all_goals
    obtain ⟨a, rfl⟩ := hr
    simp only [answer, update_of_current h hversion]
    rfl

theorem answer_of_found (hc : c.creation? = some (t, j)) {old : Json} (h : s.find? t = some old) :
    s.answer c = (.error (alreadyExists t), s) := by
  cases c <;> cases hc
  all_goals
    simp only [answer, create_of_found h]
    rfl

theorem answer_of_update_error (hw : c.rewrite? = some w) {e : Error}
    (h : s.update w.target w.version w.change = (.error e, s)) : s.answer c = (.error e, s) := by
  cases c <;> try cases hw
  case patchFacadeStatus resource ns name version patch =>
    obtain ⟨k, hk, rfl⟩ := Option.map_eq_some_iff.1 hw
    simp only [answer, hk, h]
    rfl
  all_goals
    simp only [answer, h]
    rfl

/-- A facade of a kind that is not known cannot be written. -/
theorem answer_of_rewrite?_none (hc : c.NamesVersion) (hw : c.rewrite? = none) :
    ∃ e, s.answer c = (.error e, s) := by
  cases c <;> first
    | exact hc.elim
    | cases hw
    | skip
  case patchFacadeStatus resource ns name version patch =>
    have hk : FacadeKind.ofKind? resource.kind = none := Option.map_eq_none_iff.1 hw
    simp only [answer, hk]
    exact ⟨_, rfl⟩

/-- A cluster obeys the laws of servers. -/
theorem serverLaws : ServerLaws Cluster.answer id where
  lookup c hc s := .inr ⟨rfl, congrArg System.cluster (System.answer_lookup hc ⟨s, {}⟩)⟩
  create c t j hc s := by
    cases hfound : s.find? t with
    | some old =>
      have hanswer := answer_of_found hc hfound
      exact .inl ⟨_, congrArg Prod.fst hanswer, congrArg Prod.snd hanswer⟩
    | none =>
      obtain ⟨r, hr⟩ := Call.exists_confirms c (j.withResourceVersion s.nextVersion)
      have hanswer := answer_of_none hc hfound hr
      exact .inr ⟨hfound, congrArg Prod.snd hanswer, by rw [hanswer]; exact hr⟩
  change c hc s := by
    cases hw : c.rewrite? with
    | none =>
      obtain ⟨e, hanswer⟩ := answer_of_rewrite?_none hc hw
      exact .inl ⟨e, congrArg Prod.fst hanswer, congrArg Prod.snd hanswer⟩
    | some w =>
      rcases hupdate : s.update w.target w.version w.change with ⟨r, s'⟩
      cases r with
      | error e =>
        obtain rfl := update_error hupdate
        have hanswer := answer_of_update_error hw hupdate
        exact .inl ⟨e, congrArg Prod.fst hanswer, congrArg Prod.snd hanswer⟩
      | ok j =>
        obtain ⟨old, hfound, hversion, -, -⟩ := update_eq_ok hupdate
        obtain ⟨r, hr⟩ :=
          Call.exists_confirms c ((w.change old).withResourceVersion s.nextVersion)
        have hanswer := answer_of_current hw hfound hversion hr
        exact .inr ⟨w, old, rfl, hfound, hversion, congrArg Prod.snd hanswer,
          by rw [hanswer]; exact hr⟩
  delete scope name s := .inr ⟨rfl, rfl⟩

end Cluster

namespace ServerLaws

open Controller

variable {σ : Type} {answer : (c : Call) → σ → c.Reply × σ} {store : σ → Cluster}

/-- A server that obeys the laws refuses a call or answers it as the cluster that it stores. -/
theorem answers (h : ServerLaws answer store) (c : Call) (s : σ) : Refuses answer store c s ∨
    (store s).answer c = ((answer c s).1, store (answer c s).2) := by
  rcases c.cases_effect with hc | ⟨t, j, hc⟩ | hc | ⟨scope, name, rfl⟩
  · refine (h.lookup c hc s).imp_right fun ⟨hreply, hstore⟩ => Prod.ext hreply.symm ?_
    rw [hstore]
    exact congrArg System.cluster (System.answer_lookup hc ⟨store s, {}⟩)
  · refine (h.create c t j hc s).imp_right fun ⟨hnone, hstore, hconfirms⟩ => ?_
    rw [hstore]
    exact Cluster.answer_of_none hc hnone hconfirms
  · refine (h.change c hc s).imp_right fun ⟨w, old, hw, hfound, hversion, hstore, hconfirms⟩ => ?_
    rw [hstore]
    exact Cluster.answer_of_current hw hfound hversion hconfirms
  · refine (h.delete scope name s).imp_right fun ⟨hreply, hstore⟩ => ?_
    rw [hreply, hstore]
    rfl

/-- So does every server that answers as the cluster that it stores where it does not refuse. -/
theorem of_answers (h : ∀ c s, Refuses answer store c s ∨
    (store s).answer c = ((answer c s).1, store (answer c s).2)) : ServerLaws answer store := by
  have hlaws := Cluster.serverLaws
  constructor
  · intro c hc s
    refine (h c s).elim .inl fun hanswer => ?_
    simpa only [Refuses, hanswer, id] using hlaws.lookup c hc (store s)
  · intro c t j hc s
    refine (h c s).elim .inl fun hanswer => ?_
    simpa only [Refuses, hanswer, id] using hlaws.create c t j hc (store s)
  · intro c hc s
    refine (h c s).elim .inl fun hanswer => ?_
    simpa only [Refuses, hanswer, id] using hlaws.change c hc (store s)
  · intro scope name s
    refine (h _ s).elim .inl fun hanswer => ?_
    simpa only [Refuses, hanswer, id] using hlaws.delete scope name (store s)

end ServerLaws

/-- A simulation, whatever outages it has, obeys the laws of servers. -/
theorem Simulation.serverLaws :
    ServerLaws (fun c s => Simulation.answer (.api c) s) Simulation.cluster := by
  refine .of_answers fun c s => ?_
  rcases Simulation.fallible.api c s with hanswers | ⟨e, hreply, hstate⟩
  · exact .inr (Prod.ext hanswers.reply.symm (congrArg System.cluster hanswers.state).symm)
  · exact .inl ⟨e, hreply, congrArg System.cluster hstate⟩

/-! ## Runs -/

section Runs

open Controller

variable {σ : Type} {answer : (c : Call) → σ → c.Reply × σ} {store : σ → Cluster}
  {s s' : σ × Memory} {α : Type} {x : Controller α} {r : Except Error α} {t : List Event}

/-- The steps of controllers that call a server and have a memory of their own. -/
def withMemory (answer : (c : Call) → σ → c.Reply × σ) :
    (c : Step) → σ × Memory → c.Reply × (σ × Memory)
  | .api c, (s, m) => ((answer c s).1, ((answer c s).2, m))
  | .memory c, (s, m) => ((m.answer c).1, (s, (m.answer c).2))

/-- What a server stores, with the memory of the controllers. -/
def systemOf (store : σ → Cluster) (s : σ × Memory) : System := ⟨store s.1, s.2⟩

/-- Unless one of its steps fails, a run of the controller comes to `r` and writes nothing but in
the memory of the controllers. -/
def Idles (answer : (c : Call) → σ → c.Reply × σ) (store : σ → Cluster) (x : Controller α)
    (s : σ × Memory) (r : Except Error α) : Prop :=
  ∀ t r' s', Runs (withMemory answer) x s t r' s' → (∀ e ∈ t, Event.Succeeded e) →
    r' = r ∧ (∀ e ∈ t, Step.KeepsCluster e.1) ∧ store s'.1 = store s.1

namespace ServerLaws

theorem fallible (h : ServerLaws answer store) : Fallible (withMemory answer) (systemOf store) where
  api c s := by
    rcases h.answers c s.1 with ⟨e, hreply, hstore⟩ | hanswer
    · exact .inr ⟨e, hreply, congrArg (fun cluster => (⟨cluster, s.2⟩ : System)) hstore⟩
    · refine .inl ⟨(congrArg Prod.fst hanswer).symm, ?_⟩
      exact congrArg (fun a => (⟨a.2, s.2⟩ : System)) hanswer.symm
  memory c s := ⟨rfl, rfl⟩

theorem idles (h : ServerLaws answer store) (hquiet : Quiet x (systemOf store s) r) :
    Idles answer store x s r := by
  intro t r' s' hrun ht
  obtain ⟨t₁, s₁, hquietly, hkeeps, hcluster⟩ := hquiet.exists_runs_keeping
  obtain ⟨rfl, rfl, rfl⟩ := (h.fallible.runs_system hrun ht).unique hquietly
  exact ⟨rfl, hkeeps, hcluster⟩

/-- A facade that was reconciled without a failure has settled: a run of it as it is stored then
comes to the same result and writes nothing. -/
theorem facade_idles (h : ServerLaws answer store) (interval : Duration) {now : Instant}
    (hnow : now.Valid) {k : FacadeKind} {f : Facade k} {m : Dict Json}
    (hf : f.Stored (store s.1) m) (hb : f.Admissible (store s.1)) {r : Except Error Action}
    (hrun : Runs (withMemory answer) (f.reconcile interval now) s t r s')
    (ht : ∀ e ∈ t, Event.Succeeded e) :
    ∃ (f₁ : Facade k) (m₁ : Dict Json), f₁.Stored (store s'.1) m₁ ∧ f₁.target = f.target ∧
      ∀ now₁, Idles answer store (f₁.reconcile interval now₁) s' r := by
  obtain ⟨version, status, m₁, hstored, hquiet⟩ :=
    Facade.reconcile_settled hf hnow hb (h.fallible.runs_system hrun ht) ht
  exact ⟨f.updated version status, m₁, hstored, rfl, fun now₁ => h.idles (hquiet now₁)⟩

/-- A run over a namespace that meets no failure brings about every grant that it has found there
should be, and as long as nothing changes there is nothing more to write. -/
theorem grants_converge (h : ServerLaws answer store) {interval : Duration} {n : Namespace}
    (hn : n.metadata.deletionTimestamp = none) (hs : (store s.1).Orderly) {tenants : List Tenant}
    (htenants : ((store s.1).answer (.listTenants n.metadata.anyName)).1 = .ok tenants)
    (htenantNames : (tenants.map (·.metadata.anyName)).Nodup) {inventories : List Inventory}
    (hinventories : ((store s.1).answer (.listInventories n.metadata.anyName)).1 =
      .ok inventories)
    (hinventoryNames : (inventories.map (·.metadata.anyName)).Nodup) {a : Action}
    (hrun : Runs (withMemory answer) (n.reconcile interval) s t (.ok a) s')
    (ht : ∀ e ∈ t, Event.Succeeded e) :
    a = .requeue interval ∧ ∃ gs : Grants,
      exec System.answer (grants n.metadata.anyName) (systemOf store s) =
        (.ok gs, systemOf store s) ∧
      gs.tenants.map (·.viewed) = tenants.map (·.viewed) ∧
      gs.inventories.map (·.viewed) = inventories.map (·.viewed n.metadata.anyName) ∧
      (∀ g ∈ gs.tenants ++ gs.inventories,
        g.viewed.HasRole (store s'.1) ∧ g.viewed.HasBinding g.subjects (store s'.1)) ∧
      ∀ s₁ : σ × Memory, store s₁.1 = store s'.1 →
        Idles answer store (n.reconcile interval) s₁ (.ok (.requeue interval)) := by
  obtain ⟨ha, gs, hgrants, htenantViews, hinventoryViews, hhas, hquiet⟩ :=
    Namespace.converges_of_runs (s := systemOf store s) hn hs htenants htenantNames hinventories
      hinventoryNames (h.fallible.runs_system hrun ht)
  exact ⟨ha, gs, hgrants, htenantViews, hinventoryViews, hhas,
    fun s₁ hs₁ => h.idles (hquiet (systemOf store s₁) hs₁)⟩

/-- An arbitration that meets no failure tells all policies that the one that governs does, and as
long as nothing changes there is nothing more to write. -/
theorem policies_settle (h : ServerLaws answer store) {ns : String} {policies : List Policy}
    (hs : (store s.1).Lists ns policies) (hne : policies ≠ []) {p : Policy}
    (hp : p.metadata.ns = some ns) {interval : Duration} {now : Instant} (hnow : now.Valid)
    {r : Except Error Action} (hrun : Runs (withMemory answer) (p.reconcile interval now) s t r s')
    (ht : ∀ e ∈ t, Event.Succeeded e) :
    r = .ok (.requeue interval) ∧ ∃ winner after, Policy.governing? policies = some winner ∧
      (store s'.1).Lists ns after ∧
      List.Forall₂ (Policy.Informed ns winner.metadata.anyName) policies after ∧
      (∃ w, after.filter (·.isActive) = [w] ∧ w.metadata.anyName = winner.metadata.anyName) ∧
      ∀ s₁ : σ × Memory, store s₁.1 = store s'.1 → ∀ q : Policy, q.metadata.ns = some ns →
        ∀ (interval : Duration) (now : Instant),
          Idles answer store (q.reconcile interval now) s₁ (.ok (.requeue interval)) := by
  obtain ⟨winner, after, s₁, hgoverning, htells, hlists, hinformed, hsole, hquiet⟩ :=
    Policy.reconcile_tells (s := systemOf store s) hs hne hp interval hnow
  obtain ⟨-, rfl, rfl⟩ := (h.fallible.runs_system hrun ht).unique htells
  exact ⟨rfl, winner, after, hgoverning, hlists, hinformed, hsole,
    fun s₁ hs₁ q hq interval now => h.idles (hquiet (systemOf store s₁) hs₁ q hq interval now)⟩

end ServerLaws

end Runs

/-! ## Operation on a server -/

namespace Operation

open Controller

variable {σ : Type} {answer : (c : Call) → σ → c.Reply × σ} {store : σ → Cluster}
  {s : σ × Memory} {o : Operation}

/-- An operation that has begun without versions and runs and has come to where the server is in
`s`. The server answers the steps of the runs, and everything else may happen that can. -/
inductive Hosted (answer : (c : Call) → σ → c.Reply × σ) (store : σ → Cluster) :
    σ × Memory → Operation → Prop
  | start (s : σ × Memory) (hs : (store s.1).objects .backends = []) :
    Hosted answer store s { system := systemOf store s }
  | step (s s' : σ × Memory) (versions before after log) (f : AnyFacade) (past) (c : Step) (next)
    (r : c.Reply) (hanswer : withMemory answer c s = (r, s'))
    (h : Hosted answer store s
      ⟨systemOf store s, versions, before ++ ⟨f, past, .call c next⟩ :: after, log⟩) :
    Hosted answer store s' ⟨systemOf store s', versions,
      before ++ ⟨f, past ++ [⟨c, r⟩], next r⟩ :: after, log ++ [.step f ⟨c, r⟩]⟩
  | other (s s' : σ × Memory) (o o' : Operation) (hnext : Next o o')
    (hs' : o'.system = systemOf store s') (h : Hosted answer store s o) : Hosted answer store s' o'

/-- What the server answers to a step of a run is what the system does then, or a failure. -/
theorem next_of_laws (hlaws : ServerLaws answer store) {s' : σ × Memory} {c : Step} {r : c.Reply}
    (hanswer : withMemory answer c s = (r, s')) (versions before after log) (f : AnyFacade) (past)
    (next) :
    Next ⟨systemOf store s, versions, before ++ ⟨f, past, .call c next⟩ :: after, log⟩
      ⟨systemOf store s', versions, before ++ ⟨f, past ++ [⟨c, r⟩], next r⟩ :: after,
        log ++ [.step f ⟨c, r⟩]⟩ := by
  have hstep (h : System.Answers (withMemory answer) (systemOf store) c s) :
      Next ⟨systemOf store s, versions, before ++ ⟨f, past, .call c next⟩ :: after, log⟩
        ⟨systemOf store s', versions, before ++ ⟨f, past ++ [⟨c, r⟩], next r⟩ :: after,
          log ++ [.step f ⟨c, r⟩]⟩ := by
    obtain ⟨hreply, hstate⟩ := h
    rw [hanswer] at hreply hstate
    rw [show systemOf store s' = _ from hstate, show r = _ from hreply]
    exact .step ..
  cases c with
  | memory c => exact hstep (hlaws.fallible.memory c s)
  | api c =>
    rcases hlaws.fallible.api c s with hanswers | ⟨e, hreply, hstate⟩
    · exact hstep hanswers
    · rw [hanswer] at hreply hstate
      obtain rfl : r = .error e := hreply
      rw [show systemOf store s' = _ from hstate]
      exact .fail ..

theorem Hosted.sound (hlaws : ServerLaws answer store) (h : Hosted answer store s o) :
    o.Sound ∧ o.system = systemOf store s := by
  induction h with
  | start s hs => exact ⟨sound_of_empty _ hs, rfl⟩
  | step s s' versions before after log f past c next r hanswer _ ih =>
    exact ⟨ih.1.next (next_of_laws hlaws hanswer ..), rfl⟩
  | other s s' o o' hnext hs' _ ih => exact ⟨ih.1.next hnext, hs'⟩

/-- Whatever happens, each backend stays with the controller that created it. -/
theorem Hosted.backends_owned (hlaws : ServerLaws answer store) (h : Hosted answer store s o) :
    (∀ j ∈ (store s.1).objects .backends, ∃ t b, t.IsBackend ∧ t.fits j = true ∧
      GenericObject.codec.read j = .ok b ∧ Attested o.versions o.log t b) ∧
    ∀ r ∈ o.runs, r.facade.2.MetStranger r.past → (∀ e ∈ r.past, Step.WritesNothing e.1) ∧
      ∃ resource message, r.rest = .done (.error (.validation resource message)) := by
  obtain ⟨hsound, hsystem⟩ := h.sound hlaws
  refine ⟨fun j hj => hsound.exists_attested ?_, fun r hr => hsound.ended hr⟩
  rwa [hsystem]

end Operation

end ControlPlane
