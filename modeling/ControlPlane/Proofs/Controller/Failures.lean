import ControlPlane.Proofs.Controller.System

/-!
# Calls that fail

A server that answers for a system may fail any call instead, and then the call has no effect. It
may go by whatever it keeps besides the system, so that every choice of which calls fail is some
such server. A run in which nothing has failed is one of the system itself.
-/

namespace ControlPlane

variable {σ : Type} {answer : (c : Step) → σ → c.Reply × σ} {view : σ → System} {s s' : σ}

/-- The step is answered as in the system that `view` gives. -/
structure System.Answers (answer : (c : Step) → σ → c.Reply × σ) (view : σ → System) (c : Step)
    (s : σ) : Prop where
  reply : (answer c s).1 = (System.answer c (view s)).1
  state : view (answer c s).2 = (System.answer c (view s)).2

/-- A call is answered as in the system, or it fails and changes nothing there. The memory of the
controllers does not fail. -/
structure Fallible (answer : (c : Step) → σ → c.Reply × σ) (view : σ → System) : Prop where
  api (c : Call) (s : σ) : System.Answers answer view (.api c) s ∨
    ∃ e, (answer (.api c) s).1 = .error e ∧ view (answer (.api c) s).2 = view s
  memory (c : MemoryCall) (s : σ) : System.Answers answer view (.memory c) s

/-- Outages make calls fail. -/
theorem Simulation.fallible : Fallible Simulation.answer Simulation.system where
  api c s := by
    cases hmeet : Outage.meet c.name s.outages with
    | mk met outages =>
      cases met with
      | none => exact .inl ⟨by simp only [answer, hmeet]; rfl, by simp only [answer, hmeet]; rfl⟩
      | some e => exact .inr ⟨e, by simp only [answer, hmeet], by simp only [answer, hmeet]; rfl⟩
  memory c s := ⟨rfl, rfl⟩

namespace Fallible

open Controller

variable {α : Type} {x : Controller α} {t : List Event} {r : Except Error α}

/-- A lookup changes nothing, whether it fails or not. -/
theorem view_answer (hf : Fallible answer view) {c : Step} (hc : c.IsLookup) (s : σ) :
    view (answer c s).2 = view s := by
  cases c with
  | api c =>
    rcases hf.api c s with hanswers | ⟨e, -, hstate⟩
    · exact hanswers.state.trans (System.answer_lookup hc _)
    · exact hstate
  | memory c => exact (hf.memory c s).state.trans (System.answer_lookup hc _)

theorem view_run (hf : Fallible answer view) {P : Step → Prop} (hx : Only P x)
    (hP : ∀ c, P c → c.IsLookup) (h : Runs answer x s t r s') : view s' = view s := by
  have hkeeps : view (exec answer x s).2 = view s :=
    Program.view_run view fun e he s =>
      hf.view_answer (hP _ (Program.Only.forall_trace hx _ e he)) s
  rwa [h.exec] at hkeeps

theorem lookup_inv (hf : Fallible answer view) {c : Call} (hc : Step.IsLookup (.api c))
    {r : c.Reply} (h : Runs answer (Controller.api c) s t r s') :
    view s' = view s ∧ ∀ a, r = .ok a → ((view s).cluster.answer c).1 = .ok a := by
  obtain ⟨hanswer, -⟩ := h.api_inv
  have hkeeps := hf.view_answer hc s
  rcases hf.api c s with hanswers | ⟨e, hreply, -⟩
  · have hreply := hanswers.reply
    rw [hanswer] at hkeeps hreply
    exact ⟨hkeeps, fun a ha => hreply.symm.trans ha⟩
  · rw [hanswer] at hkeeps hreply
    obtain rfl : r = .error e := hreply
    exact ⟨hkeeps, nofun⟩

/-- A write that the system lets succeed does succeed, or fails without an effect. -/
theorem write_inv (hf : Fallible answer view) {c : Call} {a : c.Answer} {s₁ : Cluster}
    (hc : (view s).cluster.answer c = (.ok a, s₁)) {r : c.Reply}
    (h : Runs answer (Controller.api c) s t r s') :
    (∃ e, r = .error e ∧ t = [⟨.api c, .error e⟩] ∧ view s' = view s) ∨
      r = .ok a ∧ (view s').cluster = s₁ := by
  obtain ⟨hanswer, ht⟩ := h.api_inv
  rcases hf.api c s with ⟨hreply, hstate⟩ | ⟨e, hreply, hstate⟩
  · rw [hanswer] at hreply hstate
    refine .inr ⟨hreply.trans (congrArg Prod.fst hc), ?_⟩
    rw [hstate]
    exact congrArg Prod.snd hc
  · rw [hanswer] at hreply hstate
    obtain rfl : r = .error e := hreply
    exact .inl ⟨e, rfl, ht, hstate⟩

/-- A step that has not failed is answered as in the system. -/
theorem answers_of_succeeded (hf : Fallible answer view) {c : Step}
    (hc : Event.Succeeded ⟨c, (answer c s).1⟩) : System.Answers answer view c s := by
  cases c with
  | memory c => exact hf.memory c s
  | api c =>
    refine (hf.api c s).resolve_right ?_
    rintro ⟨e, hreply, -⟩
    obtain ⟨a, ha⟩ := hc
    cases hreply.symm.trans ha

/-- A program none of whose steps fails does what it does in the system. -/
theorem run_system (hf : Fallible answer view) (p : Program Step Step.Reply α)
    (ht : ∀ e ∈ p.trace answer s, Event.Succeeded e) :
    p.trace System.answer (view s) = p.trace answer s ∧
      p.run System.answer (view s) = ((p.run answer s).1, view (p.run answer s).2) := by
  induction p generalizing s with
  | done a => exact ⟨rfl, rfl⟩
  | call c next ih =>
    obtain ⟨hfirst, hrest⟩ := List.forall_mem_cons.1 ht
    have hanswers := hf.answers_of_succeeded hfirst
    obtain ⟨htrace, hrun⟩ := ih _ hrest
    rw [hanswers.reply, hanswers.state] at htrace hrun
    simp only [Program.trace, Program.run, hanswers.reply]
    exact ⟨by rw [htrace], hrun⟩

/-- A run in which no step has failed is a run of the system. -/
theorem runs_system (hf : Fallible answer view) (h : Runs answer x s t r s')
    (ht : ∀ e ∈ t, Event.Succeeded e) : Runs System.answer x (view s) t r (view s') := by
  have hs : trace answer x s = t := h.trace
  obtain ⟨htrace, hrun⟩ := hf.run_system x.run (by rwa [← hs] at ht)
  have hexec : Program.run answer x.run s = (r, s') := h.exec
  rw [hexec] at hrun
  exact ⟨hrun, htrace.trans hs⟩

end Fallible

namespace Controller

variable {α β : Type} {x : Controller α} {f : α → Controller β}

/-! ## What makes a controller fail -/

/-- The controller comes to a result unless one of its steps fails. -/
def Reliable (answer : (c : Step) → σ → c.Reply × σ) (x : Controller α) : Prop :=
  ∀ s t r s', Runs answer x s t r s' → (∀ e ∈ t, Event.Succeeded e) → ∃ a, r = .ok a

namespace Reliable

protected theorem pure {a : α} : Reliable answer (pure a : Controller α) := by
  intro s t r s' h _
  obtain ⟨-, rfl, -⟩ := h.unique .pure
  exact ⟨a, rfl⟩

protected theorem api {c : Call} : Reliable answer (api c) := by
  intro s t r s' h ht
  obtain ⟨-, rfl⟩ := h.api_inv
  exact ht _ List.mem_cons_self

protected theorem memory {c : MemoryCall} : Reliable answer (memory c) := by
  intro s t r s' h _
  obtain ⟨-, rfl, -⟩ := h.unique (.memory rfl)
  exact ⟨_, rfl⟩

protected theorem bind (hx : Reliable answer x) (hf : ∀ a, Reliable answer (f a)) :
    Reliable answer (x >>= f) := by
  intro s t r s' h ht
  rcases h.bind_inv with ⟨e, hfirst, rfl⟩ | ⟨a, t₁, s₁, t₂, hfirst, hrest, rfl⟩
  · obtain ⟨a, ha⟩ := hx _ _ _ _ hfirst ht
    cases ha
  · exact hf a _ _ _ _ hrest fun e he => ht e (List.mem_append_right _ he)

protected theorem unlessConflict (hx : Reliable answer x) :
    Reliable answer (unlessConflict x) := by
  intro s t r s' h ht
  obtain ⟨r₀, hfirst⟩ := h.unlessConflict_inv
  obtain ⟨a, rfl⟩ := hx _ _ _ _ hfirst ht
  obtain ⟨-, rfl, -⟩ := h.unique hfirst.unlessConflict
  exact ⟨some a, rfl⟩

protected theorem ite {c : Prop} [Decidable c] {y : Controller α} (hx : Reliable answer x)
    (hy : Reliable answer y) : Reliable answer (if c then x else y) := by
  split <;> assumption

end Reliable

/-- A call that fails ends the controller with its error, and nothing else makes it fail. -/
structure Propagates (answer : (c : Step) → σ → c.Reply × σ) (x : Controller α) : Prop where
  reliable : Reliable answer x
  fails : ∀ s t r s', Runs answer x s t r s' → ∀ c e, (⟨.api c, .error e⟩ : Event) ∈ t →
    r = .error e

namespace Propagates

protected theorem pure {a : α} : Propagates answer (pure a : Controller α) := by
  refine ⟨.pure, ?_⟩
  intro s t r s' h c e he
  obtain ⟨rfl, -, -⟩ := h.unique .pure
  cases he

protected theorem api {c : Call} : Propagates answer (api c) := by
  refine ⟨.api, ?_⟩
  intro s t r s' h c' e he
  obtain ⟨-, rfl⟩ := h.api_inv
  cases List.mem_singleton.1 he
  rfl

protected theorem bind (hx : Propagates answer x) (hf : ∀ a, Propagates answer (f a)) :
    Propagates answer (x >>= f) := by
  refine ⟨hx.reliable.bind fun a => (hf a).reliable, ?_⟩
  intro s t r s' h c e he
  rcases h.bind_inv with ⟨e', hfirst, rfl⟩ | ⟨a, t₁, s₁, t₂, hfirst, hrest, rfl⟩
  · exact congrArg Except.error (Except.error.inj (hx.fails _ _ _ _ hfirst c e he))
  · rcases List.mem_append.1 he with he | he
    · cases hx.fails _ _ _ _ hfirst c e he
    · exact (hf a).fails _ _ _ _ hrest c e he

protected theorem ite {c : Prop} [Decidable c] {y : Controller α} (hx : Propagates answer x)
    (hy : Propagates answer y) : Propagates answer (if c then x else y) := by
  split <;> assumption

/-- A controller that comes to a result has met no failure. -/
theorem succeeded (hx : Propagates answer x) {t : List Event} {a : α}
    (h : Runs answer x s t (.ok a) s') : ∀ e ∈ t, Event.Succeeded e := by
  rintro ⟨c, r⟩ he
  cases c with
  | memory c => exact trivial
  | api c =>
    cases r with
    | ok a => exact ⟨a, rfl⟩
    | error e => cases hx.fails _ _ _ _ h c e he

end Propagates

end Controller

end ControlPlane
