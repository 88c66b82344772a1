import ControlPlane.Proofs.Cluster.Store
import ControlPlane.Proofs.Controller.Basic
import ControlPlane.Simulation

/-!
# Controllers on a cluster

`System` is a cluster together with the memory of the controllers that run on it. A simulation in
which no call is made to fail is such a system with a log.

Most steps look things up and change nothing. Those that do not concern the facades of a kind or
their backends are answered alike in systems that agree on everything else.
-/

namespace ControlPlane

structure System where
  cluster : Cluster := {}
  memory : Memory := {}

namespace System

def answer : (c : Step) → System → c.Reply × System
  | .api c, s => ((s.cluster.answer c).1, { s with cluster := (s.cluster.answer c).2 })
  | .memory c, s => ((s.memory.answer c).1, { s with memory := (s.memory.answer c).2 })

theorem answer_api {c : Call} {s : System} {r : c.Reply} {s' : Cluster}
    (h : s.cluster.answer c = (r, s')) : answer (.api c) s = (r, { s with cluster := s' }) := by
  simp only [answer, h]

end System

namespace Simulation

def system (s : Simulation) : System := ⟨s.cluster, s.memory⟩

theorem answer_eq {s : Simulation} (h : s.outages = []) (c : Step) :
    (answer c s).1 = (System.answer c s.system).1 ∧
      (answer c s).2.system = (System.answer c s.system).2 ∧ (answer c s).2.outages = [] := by
  cases c with
  | api c => simp [answer, h, Outage.meet, System.answer, system]
  | memory c => simp [answer, h, System.answer, system]

/-- Without outages a simulation does what the system does. -/
theorem run_eq {α : Type} (p : Program Step Step.Reply α) {s : Simulation} (h : s.outages = []) :
    (s.run p).1 = (p.run System.answer s.system).1 ∧
      (s.run p).2.system = (p.run System.answer s.system).2 := by
  induction p generalizing s with
  | done a => exact ⟨rfl, rfl⟩
  | call c next ih =>
    obtain ⟨hreply, hsystem, houtages⟩ := answer_eq h c
    have hnext := ih (System.answer c s.system).1 houtages
    rw [hsystem] at hnext
    have hcall : s.run (.call c next) = (answer c s).2.run (next (answer c s).1) := rfl
    rw [hcall, hreply]
    exact hnext

end Simulation

/-! ## Steps that look up -/

/-- The step looks something up and changes nothing. -/
def Step.IsLookup : Step → Prop
  | .api .listProviders | .api (.getInventory _ _) | .api (.listPolicies _)
  | .api (.namespaceLabels _) | .api (.discover _ _) | .api (.getBackend _ _ _)
  | .api (.listInventories _) | .api (.listTenants _) | .api (.getRole _ _)
  | .api (.getBinding _ _) | .api (.review _)
  | .memory .seenProviders | .memory (.knownKind _) => True
  | _ => False

theorem System.answer_lookup {c : Step} (h : c.IsLookup) (s : System) :
    (System.answer c s).2 = s := by
  unfold Step.IsLookup at h
  split at h <;> first
    | rfl
    | exact h.elim

/-- The step is one of the controllers' memory, or looks something up. -/
def Step.KeepsCluster : Step → Prop
  | .memory _ => True
  | c => c.IsLookup

theorem Step.IsLookup.keepsCluster {c : Step} (h : c.IsLookup) : c.KeepsCluster := by
  cases c with
  | memory c => exact trivial
  | api c => exact h

theorem System.cluster_answer {c : Step} (h : c.KeepsCluster) (s : System) :
    (System.answer c s).2.cluster = s.cluster := by
  cases c with
  | memory c => rfl
  | api c => rw [answer_lookup (show (Step.api c).IsLookup from h)]

/-- The step neither creates nor replaces a backend, nor does it write the status of a facade. -/
def Step.WritesNothing : Step → Prop
  | .api (.createBackend _ _ _) | .api (.replaceBackend _ _ _)
  | .api (.patchFacadeStatus _ _ _ _ _) => False
  | _ => True

theorem Step.KeepsCluster.writesNothing {c : Step} (h : c.KeepsCluster) : c.WritesNothing := by
  unfold WritesNothing
  split <;> first
    | exact h
    | exact trivial

/-! ## Steps that do not concern the facades of a kind -/

namespace System

/-- The systems agree on everything but the facades of a kind, their backends, and what the
controllers remember of kinds, watches and failures. -/
structure Agrees (k : FacadeKind) (s s' : System) : Prop where
  providers : s'.memory.providers = s.memory.providers
  served : s'.cluster.served = s.cluster.served
  objects : ∀ c, c ≠ .backends → c ≠ .facades k → s'.cluster.objects c = s.cluster.objects c

namespace Agrees

variable {k : FacadeKind} {s s' s'' : System}

theorem refl (s : System) : Agrees k s s := ⟨rfl, rfl, fun _ _ _ => rfl⟩

theorem trans (h : Agrees k s s') (h' : Agrees k s' s'') : Agrees k s s'' :=
  ⟨h'.providers.trans h.providers, h'.served.trans h.served,
    fun c hb hf => (h'.objects c hb hf).trans (h.objects c hb hf)⟩

end Agrees

end System

/-- A lookup whose reply depends neither on facades of the kind nor on backends. -/
def Step.IsShared (k : FacadeKind) : Step → Prop
  | .api .listProviders | .api (.listPolicies _) | .api (.namespaceLabels _)
  | .api (.discover _ _) | .memory .seenProviders => True
  | .api (.getInventory _ _) => k ≠ .inventory
  | _ => False

theorem Step.IsShared.isLookup {k : FacadeKind} {c : Step} (h : c.IsShared k) : c.IsLookup := by
  unfold IsShared at h
  split at h <;> first
    | exact trivial
    | exact h.elim

theorem System.Agrees.answer {k : FacadeKind} {s s' : System} (h : Agrees k s s') {c : Step}
    (hc : c.IsShared k) : (System.answer c s').1 = (System.answer c s).1 := by
  unfold Step.IsShared at hc
  split at hc
  · simp only [System.answer, Cluster.answer, h.objects .providers (by simp) (by simp)]
  · simp only [System.answer, Cluster.answer, Cluster.inNamespace,
      h.objects .policies (by simp) (by simp)]
  · simp only [System.answer, Cluster.answer, Cluster.labels, Cluster.find?,
      h.objects .namespaces (by simp) (by simp)]
  · simp only [System.answer, Cluster.answer, h.served]
  · simp only [System.answer, Memory.answer, h.providers]
  · have hne : Collection.facades .inventory ≠ .facades k := fun heq =>
      hc (Collection.facades.inj heq).symm
    simp only [System.answer, Cluster.answer, Cluster.get, Cluster.find?, Cluster.facade,
      h.objects (.facades .inventory) (by simp) hne]
  · exact hc.elim

namespace Controller

variable {α : Type} {k : FacadeKind} {x : Controller α} {s s' : System}

theorem Runs.lookup_inv {c : Call} (hc : Step.IsLookup (.api c)) {t : List Event} {r : c.Reply}
    (h : Runs System.answer (api c) s t r s') :
    s = s' ∧ (System.answer (.api c) s).1 = r ∧ t = [⟨.api c, r⟩] := by
  obtain ⟨hanswer, ht⟩ := h.api_inv
  have hkeeps := System.answer_lookup hc s
  rw [hanswer] at hkeeps
  exact ⟨hkeeps.symm, congrArg Prod.fst hanswer, ht⟩

/-- By lookups alone the controller comes to `r`. -/
def Observes (x : Controller α) (s : System) (r : Except Error α) : Prop :=
  ∃ t, Runs System.answer x s t r s ∧ ∀ e ∈ t, Step.IsLookup e.1

/-- What only takes lookups that two systems answer alike leaves both as they are, and comes to the
same in them. -/
theorem Only.observes_of_alike {P : Step → Prop} (hx : Only P x) (hP : ∀ c, P c → c.IsLookup)
    (hsame : ∀ c, P c → (System.answer c s').1 = (System.answer c s).1)
    {t : List Event} {r : Except Error α} {s₁ : System} (h : Runs System.answer x s t r s₁) :
    s₁ = s ∧ Observes x s' r := by
  have hkeeps (s : System) : (exec System.answer x s).2 = s :=
    Program.view_run (fun s : System => s) fun e he s =>
      System.answer_lookup (hP _ (Program.Only.forall_trace hx _ e he)) s
  have hstep : ∀ c, P c → ∀ s₁ s₁', s₁ = s ∧ s₁' = s' →
      (System.answer c s₁').1 = (System.answer c s₁).1 ∧
        ((System.answer c s₁).2 = s ∧ (System.answer c s₁').2 = s') := by
    rintro c hc _ _ ⟨rfl, rfl⟩
    exact ⟨hsame c hc, System.answer_lookup (hP c hc) _, System.answer_lookup (hP c hc) _⟩
  obtain ⟨htrace, hresult, -⟩ := Program.Only.run_congr hstep hx ⟨rfl, rfl⟩
  obtain ⟨rfl, rfl, rfl⟩ := h.unique (.refl _ x s)
  refine ⟨hkeeps s, _, ⟨Prod.ext hresult (hkeeps s'), htrace⟩, ?_⟩
  intro e he
  exact hP _ (Program.Only.forall_trace hx s e he)

/-- What only looks up shared things leaves the system as it is, and comes to the same by lookups
in systems that agree on them. -/
theorem Only.observes (hx : Only (Step.IsShared k) x) (hs : System.Agrees k s s')
    {t : List Event} {r : Except Error α} {s₁ : System} (h : Runs System.answer x s t r s₁) :
    s₁ = s ∧ Observes x s' r :=
  hx.observes_of_alike (fun _ => Step.IsShared.isLookup) (fun _ => hs.answer) h

section

variable {β : Type} {f : α → Controller β} {a : α} {e : Error} {r : Except Error β}

namespace Observes

theorem lift (r : Except Error α) (s : System) : Observes (liftM r) s r :=
  ⟨[], .lift r, fun _ he => nomatch he⟩

protected theorem api {c : Call} (h : Step.IsLookup (.api c)) {r : c.Reply}
    (hr : (System.answer (.api c) s).1 = r) : Observes (api c) s r := by
  refine ⟨_, .api (Prod.ext hr (System.answer_lookup h s)), ?_⟩
  exact fun e he => List.mem_singleton.1 he ▸ h

protected theorem memory {c : MemoryCall} (h : Step.IsLookup (.memory c)) {r : c.Reply}
    (hr : (System.answer (.memory c) s).1 = r) : Observes (memory c) s (.ok r) := by
  refine ⟨_, .memory (Prod.ext hr (System.answer_lookup h s)), ?_⟩
  exact fun e he => List.mem_singleton.1 he ▸ h

protected theorem pure (a : α) (s : System) : Observes (pure a) s (.ok a) :=
  ⟨[], .pure, fun _ he => nomatch he⟩

protected theorem throw (e : Error) (s : System) : Observes (throw e : Controller α) s (.error e) :=
  ⟨[], .throw, fun _ he => nomatch he⟩

protected theorem bind (h : Observes x s (.ok a)) (h' : Observes (f a) s r) :
    Observes (x >>= f) s r := by
  obtain ⟨t, hrun, hlookups⟩ := h
  obtain ⟨t', hrun', hlookups'⟩ := h'
  exact ⟨t ++ t', hrun.bind hrun', List.forall_mem_append.2 ⟨hlookups, hlookups'⟩⟩

theorem bind_error (h : Observes x s (.error e)) : Observes (x >>= f) s (.error e) := by
  obtain ⟨t, hrun, hlookups⟩ := h
  exact ⟨t, hrun.bind_error, hlookups⟩

protected theorem tryCatch {handle : Error → Controller α} (h : Observes x s (.ok a)) :
    Observes (tryCatch x handle) s (.ok a) := by
  obtain ⟨t, hrun, hlookups⟩ := h
  exact ⟨t, hrun.tryCatch, hlookups⟩

theorem tryCatch_error {handle : Error → Controller α} {r : Except Error α}
    (h : Observes x s (.error e)) (h' : Observes (handle e) s r) :
    Observes (tryCatch x handle) s r := by
  obtain ⟨t, hrun, hlookups⟩ := h
  obtain ⟨t', hrun', hlookups'⟩ := h'
  exact ⟨t ++ t', hrun.tryCatch_error hrun', List.forall_mem_append.2 ⟨hlookups, hlookups'⟩⟩

end Observes

/-- The controller comes to `r` and writes nothing but in its memory. -/
def Quiet (x : Controller α) (s : System) (r : Except Error α) : Prop :=
  ∃ t s', Runs System.answer x s t r s' ∧ ∀ e ∈ t, Step.KeepsCluster e.1

theorem Observes.quiet {r : Except Error α} (h : Observes x s r) : Quiet x s r := by
  obtain ⟨t, hrun, hlookups⟩ := h
  exact ⟨t, s, hrun, fun e he => (hlookups e he).keepsCluster⟩

theorem Observes.bind_quiet (h : Observes x s (.ok a)) (h' : Quiet (f a) s r) :
    Quiet (x >>= f) s r := by
  obtain ⟨t, hrun, hlookups⟩ := h
  obtain ⟨t', s', hrun', hkeeps⟩ := h'
  exact ⟨t ++ t', s', hrun.bind hrun',
    List.forall_mem_append.2 ⟨fun e he => (hlookups e he).keepsCluster, hkeeps⟩⟩

theorem Quiet.bind_error (h : Quiet x s (.error e)) : Quiet (x >>= f) s (.error e) := by
  obtain ⟨t, s', hrun, hkeeps⟩ := h
  exact ⟨t, s', hrun.bind_error, hkeeps⟩

theorem Quiet.memory {c : MemoryCall} {f : c.Reply → Controller β}
    (h : Quiet (f (System.answer (.memory c) s).1) (System.answer (.memory c) s).2 r) :
    Quiet (Controller.memory c >>= f) s r := by
  obtain ⟨t, s', hrun, hkeeps⟩ := h
  exact ⟨_, s', (Runs.memory rfl).bind hrun, List.forall_mem_cons.2 ⟨trivial, hkeeps⟩⟩

theorem Quiet.exists_runs_keeping {r : Except Error α} (h : Quiet x s r) :
    ∃ t s', Runs System.answer x s t r s' ∧ (∀ e ∈ t, Step.KeepsCluster e.1) ∧
      s'.cluster = s.cluster := by
  obtain ⟨t, s', hrun, hkeeps⟩ := h
  have hcluster : (exec System.answer x s).2.cluster = s.cluster :=
    Program.view_run (·.cluster) fun e he s =>
      System.cluster_answer (hkeeps e (hrun.trace ▸ he)) s
  rw [hrun.exec] at hcluster
  exact ⟨t, s', hrun, hkeeps, hcluster⟩

theorem Quiet.exists_runs {r : Except Error α} (h : Quiet x s r) :
    ∃ t s', Runs System.answer x s t r s' ∧ (∀ e ∈ t, Step.WritesNothing e.1) ∧
      s'.cluster = s.cluster := by
  obtain ⟨t, s', hrun, hkeeps, hcluster⟩ := h.exists_runs_keeping
  exact ⟨t, s', hrun, fun e he => (hkeeps e he).writesNothing, hcluster⟩

end

/-! ## What a controller achieves -/

/-- Run from `s` the controller comes to a result and a system that satisfy `Q`, unless it fails,
and then not because of a conflict. -/
def Achieves (x : Controller α) (s : System) (Q : α → System → Prop) : Prop :=
  ∀ t r s', Runs System.answer x s t r s' →
    (∃ a, r = .ok a ∧ Q a s') ∨ ∃ e, r = .error e ∧ e.isConflict = false

namespace Achieves

variable {β : Type} {f : α → Controller β} {a : α} {Q Q' : α → System → Prop}
  {R : β → System → Prop}

theorem mono (h : Achieves x s Q) (hQ : ∀ a s', Q a s' → Q' a s') : Achieves x s Q' := by
  intro t r s' hrun
  exact (h _ _ _ hrun).imp_left fun ⟨a, hr, ha⟩ => ⟨a, hr, hQ a s' ha⟩

protected theorem pure (h : Q a s) : Achieves (pure a) s Q := by
  intro t r s' hrun
  obtain ⟨-, rfl, rfl⟩ := hrun.unique .pure
  exact .inl ⟨a, rfl, h⟩

theorem lift {r : Except Error α} (hok : ∀ a, r = .ok a → Q a s)
    (herror : ∀ e, r = .error e → e.isConflict = false) : Achieves (liftM r) s Q := by
  intro t r' s' hrun
  obtain ⟨-, hr, rfl⟩ := hrun.unique (.lift r)
  cases r' with
  | ok a => exact .inl ⟨a, rfl, hok a hr.symm⟩
  | error e => exact .inr ⟨e, rfl, herror e hr.symm⟩

/-- A call that succeeds. -/
protected theorem api {c : Call} {a : c.Answer} {s' : Cluster} {Q : c.Answer → System → Prop}
    (h : s.cluster.answer c = (.ok a, s')) (hQ : Q a { s with cluster := s' }) :
    Achieves (api c) s Q := by
  intro t r s'' hrun
  obtain ⟨-, rfl, rfl⟩ := hrun.unique (.api (System.answer_api h))
  exact .inl ⟨a, rfl, hQ⟩

/-- A lookup that succeeds or fails for another reason than a conflict. -/
theorem lookup {c : Call} (hc : Step.IsLookup (.api c)) {Q : c.Answer → System → Prop}
    (hok : ∀ a, (s.cluster.answer c).1 = .ok a → Q a s)
    (herror : ∀ e, (s.cluster.answer c).1 = .error e → e.isConflict = false) :
    Achieves (Controller.api c) s Q := by
  intro t r s' hrun
  obtain ⟨rfl, hr, -⟩ := hrun.lookup_inv hc
  cases r with
  | ok a => exact .inl ⟨a, rfl, hok a hr⟩
  | error e => exact .inr ⟨e, rfl, herror e hr⟩

protected theorem bind (h : Achieves x s Q) (hf : ∀ a s', Q a s' → Achieves (f a) s' R) :
    Achieves (x >>= f) s R := by
  intro t r s' hrun
  rcases hrun.bind_inv with ⟨e, hfail, rfl⟩ | ⟨a, t₁, s₁, t₂, hfirst, hrest, -⟩
  · rcases h _ _ _ hfail with ⟨_, hr, -⟩ | ⟨e, hr, he⟩
    · cases hr
    · exact .inr ⟨e, congrArg Except.error (Except.error.inj hr), he⟩
  · rcases h _ _ _ hfirst with ⟨a, hr, ha⟩ | ⟨_, hr, -⟩
    · cases hr
      exact hf a s₁ ha _ _ _ hrest
    · cases hr

/-- Where no conflict is met none has to be taken note of. -/
protected theorem unlessConflict (h : Achieves x s Q) :
    Achieves (unlessConflict x) s fun o s' => ∃ a, o = some a ∧ Q a s' := by
  intro t r s' hrun
  rcases hx : exec System.answer x s with ⟨result, s₁⟩
  have hfirst : Runs System.answer x s _ result s₁ := ⟨hx, rfl⟩
  rcases h _ _ _ hfirst with ⟨a, rfl, ha⟩ | ⟨e, rfl, he⟩
  · obtain ⟨-, rfl, rfl⟩ := hrun.unique hfirst.unlessConflict
    exact .inl ⟨_, rfl, a, rfl, ha⟩
  · obtain ⟨-, rfl, rfl⟩ := hrun.unique (hfirst.unlessConflict_error he)
    exact .inr ⟨e, rfl, he⟩

protected theorem ite {c : Prop} [Decidable c] {y : Controller α} (hx : c → Achieves x s Q)
    (hy : ¬ c → Achieves y s Q) : Achieves (if c then x else y) s Q := by
  split
  · next hc => exact hx hc
  · next hc => exact hy hc

end Achieves

end Controller

end ControlPlane
