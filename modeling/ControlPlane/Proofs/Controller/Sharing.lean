import ControlPlane.Proofs.Controller.Failures

/-!
# Clusters that are shared

While a controller runs, others write to the same cluster. `Cluster.Serves others` follows a cluster
through the events of a run: each call is answered as the cluster is by then, or it fails without an
effect, and before, between and after the calls the cluster changes any number of times in ways that
`others` allows. What both the events and the others keep holds from the beginning to the end.
-/

namespace ControlPlane

namespace Cluster

variable {others R : Cluster → Cluster → Prop} {s s' s'' : Cluster} {e : Event} {t t' : List Event}

/-- The cluster gives the reply of the event and is `s'` then. A call that fails may leave it as it
is, and what is asked of the memory does not concern it. -/
def Answers (s : Cluster) (e : Event) (s' : Cluster) : Prop :=
  match e with
  | ⟨.api c, r⟩ => s.answer c = (r, s') ∨ (∃ e, r = .error e) ∧ s' = s
  | ⟨.memory _, _⟩ => s' = s

/-- A call that succeeded was answered. -/
theorem Answers.eq_of_ok {c : Call} {a : c.Answer} (h : s.Answers ⟨.api c, .ok a⟩ s') :
    s.answer c = (.ok a, s') := by
  rcases h with h | ⟨⟨_, he⟩, -⟩
  · exact h
  · cases he

/-- What the answers to a step lead to is led to by its events, where a failure leads nowhere. -/
theorem Answers.leads (hrefl : R s s) (hcall : ∀ c, e.1 = .api c → R s (s.answer c).2)
    (h : s.Answers e s') : R s s' := by
  obtain ⟨c, r⟩ := e
  cases c with
  | memory c =>
    obtain rfl : s' = s := h
    exact hrefl
  | api c =>
    rcases h with h | ⟨-, rfl⟩
    · have hnext := hcall c rfl
      rwa [h] at hnext
    · exact hrefl

/-- The cluster goes through the events, and changes in between as `others` allows. -/
inductive Serves (others : Cluster → Cluster → Prop) : Cluster → List Event → Cluster → Prop
  | done (s : Cluster) : Serves others s [] s
  | step {s s₁ s' : Cluster} {e : Event} {t : List Event} (h : s.Answers e s₁)
    (ht : Serves others s₁ t s') : Serves others s (e :: t) s'
  | others {s s₁ s' : Cluster} {t : List Event} (h : others s s₁)
    (ht : Serves others s₁ t s') : Serves others s t s'

namespace Serves

/-- At the end of the first events the cluster is somewhere from where it goes through the rest. -/
theorem append_inv (h : Serves others s (t ++ t') s') :
    ∃ s₁, Serves others s t s₁ ∧ Serves others s₁ t' s' := by
  generalize hevents : t ++ t' = events at h
  induction h generalizing t with
  | done s =>
    obtain ⟨rfl, rfl⟩ := List.append_eq_nil_iff.1 hevents
    exact ⟨s, .done s, .done s⟩
  | others hothers _ ih =>
    obtain ⟨s₁, hfirst, hrest⟩ := ih hevents
    exact ⟨s₁, .others hothers hfirst, hrest⟩
  | step hstep hserves ih =>
    cases t with
    | nil =>
      obtain rfl : t' = _ := hevents
      exact ⟨_, .done _, .step hstep hserves⟩
    | cons e t =>
      obtain ⟨rfl, hrest⟩ := List.cons.inj hevents
      obtain ⟨s₁, hfirst, hrest⟩ := ih hrest
      exact ⟨s₁, .step hstep hfirst, hrest⟩

/-- When the first event comes, others may have written since the beginning. -/
theorem cons_inv (h : Serves others s (e :: t) s') :
    ∃ s₁ s₂, Serves others s [] s₁ ∧ s₁.Answers e s₂ ∧ Serves others s₂ t s' := by
  generalize hevents : e :: t = events at h
  induction h with
  | done => cases hevents
  | others hothers _ ih =>
    obtain ⟨s₁, s₂, hfirst, hanswers, hrest⟩ := ih hevents
    exact ⟨s₁, s₂, .others hothers hfirst, hanswers, hrest⟩
  | step hstep hserves =>
    obtain ⟨rfl, rfl⟩ := List.cons.inj hevents
    exact ⟨_, _, .done _, hstep, hserves⟩

protected theorem append (h : Serves others s t s') (h' : Serves others s' t' s'') :
    Serves others s (t ++ t') s'' := by
  induction h with
  | done s => exact h'
  | others hothers _ ih => exact .others hothers (ih h')
  | step hstep _ ih => exact .step hstep (ih h')

/-- The cluster as it is when an event comes, and after that. -/
theorem append_cons_inv (h : Serves others s (t ++ e :: t') s') :
    ∃ s₁ s₂, Serves others s t s₁ ∧ s₁.Answers e s₂ ∧ Serves others s₂ t' s' := by
  obtain ⟨_, hbefore, hrest⟩ := h.append_inv
  obtain ⟨s₁, s₂, hothers, hanswers, hafter⟩ := hrest.cons_inv
  exact ⟨s₁, s₂, by simpa using hbefore.append hothers, hanswers, hafter⟩

/-- Where others and every event lead, the whole run leads. -/
theorem leads (hrefl : ∀ s, R s s) (htrans : ∀ {s s₁ s'}, R s s₁ → R s₁ s' → R s s')
    (hothers : ∀ {s s'}, others s s' → R s s')
    (ht : ∀ e ∈ t, ∀ s c, e.1 = .api c → R s (s.answer c).2)
    (h : Serves others s t s') : R s s' := by
  induction h with
  | done s => exact hrefl s
  | others h _ ih => exact htrans (hothers h) (ih ht)
  | step h _ ih =>
    obtain ⟨he, ht⟩ := List.forall_mem_cons.1 ht
    exact htrans (h.leads (hrefl _) (he _)) (ih ht)

end Serves

/-- If others may write before each call and it is answered then, so the whole run is served. -/
theorem serves_of_runs {α σ : Type} {answer : (c : Step) → σ → c.Reply × σ} {view : σ → Cluster}
    (hstep : ∀ c s, ∃ s₁, Serves others (view s) [] s₁ ∧
      s₁.Answers ⟨c, (answer c s).1⟩ (view (answer c s).2))
    {x : Controller α} {s s' : σ} {r : Except Error α} (h : Controller.Runs answer x s t r s') :
    Serves others (view s) t (view s') := by
  have hp (p : Program Step Step.Reply (Except Error α)) (s : σ) : Serves others (view s)
      (p.trace answer s) (view (p.run answer s).2) := by
    induction p generalizing s with
    | done r => exact .done _
    | call c next ih =>
      obtain ⟨s₁, hothers, hanswers⟩ := hstep c s
      exact hothers.append (.step hanswers (ih _ _))
  exact h.of_program (P := fun t _ s' => Serves others (view s) t (view s')) (hp x.run s)

end Cluster

theorem System.cluster_answers (c : Step) (s : System) :
    s.cluster.Answers ⟨c, (System.answer c s).1⟩ (System.answer c s).2.cluster := by
  cases c with
  | memory c => exact rfl
  | api c => exact .inl rfl

namespace Fallible

open Controller

variable {α σ : Type} {answer : (c : Step) → σ → c.Reply × σ} {view : σ → System} {s s' : σ}
  {t : List Event} {x : Controller α} {r : Except Error α}

theorem cluster_answers (hf : Fallible answer view) (c : Step) (s : σ) :
    (view s).cluster.Answers ⟨c, (answer c s).1⟩ (view (answer c s).2).cluster := by
  cases c with
  | memory c =>
    show (view (answer (.memory c) s).2).cluster = (view s).cluster
    rw [(hf.memory c s).state]
    rfl
  | api c =>
    rcases hf.api c s with ⟨hreply, hstate⟩ | ⟨e, hreply, hstate⟩
    · exact .inl (Prod.ext hreply.symm (congrArg System.cluster hstate).symm)
    · exact .inr ⟨⟨e, hreply⟩, congrArg System.cluster hstate⟩

/-- A run that nobody else disturbs goes through its cluster. -/
theorem serves (hf : Fallible answer view) (others : Cluster → Cluster → Prop)
    (h : Runs answer x s t r s') :
    Cluster.Serves others (view s).cluster t (view s').cluster :=
  Cluster.serves_of_runs (fun c s => ⟨_, .done _, hf.cluster_answers c s⟩) h

end Fallible

end ControlPlane
