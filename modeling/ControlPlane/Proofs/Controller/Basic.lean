import ControlPlane.Controller.Basic
import ControlPlane.Proofs.Program

/-!
# Running controllers

A controller is run by whoever answers its steps. `Controller.exec` gives its result and the state
afterwards, `Controller.trace` the steps that it takes. `Controller.Runs` says both at once, and
has a rule for each way in which controllers are put together.
-/

namespace ControlPlane

/-- A step and its reply. -/
abbrev Event := (c : Step) × c.Reply

/-- The step did not fail; what is asked of the memory never does. -/
def Event.Succeeded : Event → Prop
  | ⟨.api _, r⟩ => ∃ a, r = .ok a
  | ⟨.memory _, _⟩ => True

namespace Controller

variable {α β σ : Type}

def exec (answer : (c : Step) → σ → c.Reply × σ) (x : Controller α) (s : σ) :
    Except Error α × σ :=
  Program.run answer x.run s

def trace (answer : (c : Step) → σ → c.Reply × σ) (x : Controller α) (s : σ) : List Event :=
  Program.trace answer x.run s

/-- Run from `s` the controller takes the steps `t` and ends in `s'` with the result `r`. -/
structure Runs (answer : (c : Step) → σ → c.Reply × σ) (x : Controller α) (s : σ) (t : List Event)
    (r : Except Error α) (s' : σ) : Prop where
  protected exec : exec answer x s = (r, s')
  protected trace : trace answer x s = t

namespace Runs

variable {answer : (c : Step) → σ → c.Reply × σ} {s s' s'' : σ} {t t' : List Event}
  {x : Controller α} {f : α → Controller β} {a : α} {b : β} {e : Error}

theorem refl (answer : (c : Step) → σ → c.Reply × σ) (x : Controller α) (s : σ) :
    Runs answer x s (trace answer x s) (exec answer x s).1 (exec answer x s).2 :=
  ⟨rfl, rfl⟩

/-- What is so of the program of a controller is so of its runs. -/
theorem of_program {P : List Event → Except Error α → σ → Prop} {r : Except Error α}
    (h : Runs answer x s t r s')
    (hP : P (Program.trace answer x.run s) (Program.run answer x.run s).1
      (Program.run answer x.run s).2) : P t r s' := by
  obtain rfl := h.trace
  obtain rfl : _ = r := congrArg Prod.fst h.exec
  obtain rfl : _ = s' := congrArg Prod.snd h.exec
  exact hP

protected theorem pure : Runs answer (pure a) s [] (.ok a) s := ⟨rfl, rfl⟩

protected theorem throw : Runs answer (throw e : Controller α) s [] (.error e) s := ⟨rfl, rfl⟩

theorem lift (r : Except Error α) : Runs answer (liftM r : Controller α) s [] r s := by
  cases r <;> exact ⟨rfl, rfl⟩

protected theorem api {c : Call} {r : c.Reply} (h : answer (.api c) s = (r, s')) :
    Runs answer (api c) s [⟨.api c, r⟩] r s' := by
  refine ⟨h, ?_⟩
  show [(⟨Step.api c, (answer (.api c) s).1⟩ : Event)] = _
  rw [h]

protected theorem memory {c : MemoryCall} {r : c.Reply} (h : answer (.memory c) s = (r, s')) :
    Runs answer (memory c) s [⟨.memory c, r⟩] (.ok r) s' := by
  refine ⟨?_, ?_⟩
  · show (Except.ok (answer (.memory c) s).1, (answer (.memory c) s).2) = _
    rw [h]
  · show [(⟨Step.memory c, (answer (.memory c) s).1⟩ : Event)] = _
    rw [h]

/-- What follows on a run goes on from where it ended, with its result. -/
theorem followed {r : Except Error α} {r' : Except Error β}
    {g : Except Error α → Program Step Step.Reply (Except Error β)} (h : Runs answer x s t r s')
    (h' : Runs answer (ExceptT.mk (g r)) s' t' r' s'') :
    Runs answer (ExceptT.mk (Program.bind x.run g)) s (t ++ t') r' s'' := by
  obtain ⟨hrun, htrace⟩ := h
  unfold Controller.exec at hrun
  unfold Controller.trace at htrace
  refine ⟨?_, ?_⟩
  · show Program.run answer (Program.bind x.run g) s = _
    rw [Program.run_bind, hrun]
    exact h'.exec
  · show Program.trace answer (Program.bind x.run g) s = _
    rw [Program.trace_bind, hrun, htrace]
    exact congrArg (t ++ ·) h'.trace

protected theorem bind {r : Except Error β} (h : Runs answer x s t (.ok a) s')
    (h' : Runs answer (f a) s' t' r s'') : Runs answer (x >>= f) s (t ++ t') r s'' :=
  h.followed h'

theorem bind_nil {r : Except Error β} (h : Runs answer x s t (.ok a) s')
    (h' : Runs answer (f a) s' [] r s'') : Runs answer (x >>= f) s t r s'' := by
  simpa only [List.append_nil] using h.bind h'

theorem bind_error (h : Runs answer x s t (.error e) s') :
    Runs answer (x >>= f) s t (.error e) s' := by
  have hstop : Runs answer (x >>= f) s (t ++ []) (.error e) s' := h.followed .throw
  rwa [List.append_nil] at hstop

protected theorem map {g : α → β} (h : Runs answer x s t (.ok a) s') :
    Runs answer (g <$> x) s t (.ok (g a)) s' :=
  h.bind_nil (f := fun a => pure (g a)) .pure

theorem map_error {g : α → β} (h : Runs answer x s t (.error e) s') :
    Runs answer (g <$> x) s t (.error e) s' :=
  h.bind_error (f := fun a => pure (g a))

protected theorem tryCatch {handle : Error → Controller α} (h : Runs answer x s t (.ok a) s') :
    Runs answer (tryCatch x handle) s t (.ok a) s' := by
  have hdone : Runs answer (tryCatch x handle) s (t ++ []) (.ok a) s' := h.followed .pure
  rwa [List.append_nil] at hdone

theorem tryCatch_error {handle : Error → Controller α} {r : Except Error α}
    (h : Runs answer x s t (.error e) s') (h' : Runs answer (handle e) s' t' r s'') :
    Runs answer (tryCatch x handle) s (t ++ t') r s'' :=
  h.followed h'

protected theorem unlessConflict (h : Runs answer x s t (.ok a) s') :
    Runs answer (unlessConflict x) s t (.ok (some a)) s' :=
  h.map.tryCatch

theorem unlessConflict_conflict (h : Runs answer x s t (.error e) s') (he : e.isConflict = true) :
    Runs answer (unlessConflict x) s t (.ok none) s' := by
  have hpure : Runs answer (if e.isConflict then pure none else throw e : Controller (Option α))
      s' [] (.ok none) s' := by
    rw [if_pos he]
    exact .pure
  have hcaught : Runs answer (unlessConflict x) s (t ++ []) (.ok none) s' :=
    (h.map_error (g := some)).tryCatch_error hpure
  rwa [List.append_nil] at hcaught

theorem unlessConflict_error (h : Runs answer x s t (.error e) s') (he : e.isConflict = false) :
    Runs answer (unlessConflict x) s t (.error e) s' := by
  have hthrow : Runs answer (if e.isConflict then pure none else throw e : Controller (Option α))
      s' [] (.error e) s' := by
    rw [if_neg (by simp [he])]
    exact .throw
  have hcaught : Runs answer (unlessConflict x) s (t ++ []) (.error e) s' :=
    (h.map_error (g := some)).tryCatch_error hthrow
  rwa [List.append_nil] at hcaught

/-! ### What a run was made of -/

theorem unique {r r' : Except Error α} (h : Runs answer x s t r s') (h' : Runs answer x s t' r' s'') :
    t = t' ∧ r = r' ∧ s' = s'' := by
  obtain ⟨hr, hs⟩ := Prod.mk.inj (h.exec.symm.trans h'.exec)
  exact ⟨h.trace.symm.trans h'.trace, hr, hs⟩

theorem bind_inv {r : Except Error β} (h : Runs answer (x >>= f) s t r s') :
    (∃ e, Runs answer x s t (.error e) s' ∧ r = .error e) ∨
      ∃ a t₁ s₁ t₂, Runs answer x s t₁ (.ok a) s₁ ∧ Runs answer (f a) s₁ t₂ r s' ∧
        t = t₁ ++ t₂ := by
  rcases hx : exec answer x s with ⟨result, s₁⟩
  have hfirst : Runs answer x s _ result s₁ := ⟨hx, rfl⟩
  cases result with
  | error e =>
    obtain ⟨rfl, rfl, rfl⟩ := h.unique hfirst.bind_error
    exact .inl ⟨e, hfirst, rfl⟩
  | ok a =>
    have hrest := Runs.refl answer (f a) s₁
    obtain ⟨rfl, rfl, rfl⟩ := h.unique (hfirst.bind hrest)
    exact .inr ⟨a, _, s₁, _, hfirst, hrest, rfl⟩

theorem tryCatch_inv {handle : Error → Controller α} {r : Except Error α}
    (h : Runs answer (tryCatch x handle) s t r s') :
    (∃ a, Runs answer x s t (.ok a) s' ∧ r = .ok a) ∨
      ∃ e t₁ s₁ t₂, Runs answer x s t₁ (.error e) s₁ ∧ Runs answer (handle e) s₁ t₂ r s' ∧
        t = t₁ ++ t₂ := by
  rcases hx : exec answer x s with ⟨result, s₁⟩
  have hfirst : Runs answer x s _ result s₁ := ⟨hx, rfl⟩
  cases result with
  | ok a =>
    obtain ⟨rfl, rfl, rfl⟩ := h.unique hfirst.tryCatch
    exact .inl ⟨a, hfirst, rfl⟩
  | error e =>
    have hrest := Runs.refl answer (handle e) s₁
    obtain ⟨rfl, rfl, rfl⟩ := h.unique (hfirst.tryCatch_error hrest)
    exact .inr ⟨e, _, s₁, _, hfirst, hrest, rfl⟩

theorem bind_pure_inv {f : α → β} {r : Except Error β}
    (h : Runs answer (x >>= fun a => pure (f a)) s t r s') : ∃ r, Runs answer x s t r s' := by
  rcases h.bind_inv with ⟨e, hfirst, -⟩ | ⟨a, t₁, s₁, t₂, hfirst, hrest, rfl⟩
  · exact ⟨_, hfirst⟩
  · obtain ⟨rfl, -, rfl⟩ := hrest.unique .pure
    exact ⟨_, by rwa [List.append_nil]⟩

/-- Whether or not conflicts are let pass, the same is done. -/
theorem unlessConflict_inv {r : Except Error (Option α)}
    (h : Runs answer (Controller.unlessConflict x) s t r s') : ∃ r, Runs answer x s t r s' := by
  have hfirst := Runs.refl answer x s
  cases hr : (Controller.exec answer x s).1 with
  | ok a =>
    rw [hr] at hfirst
    obtain ⟨rfl, -, rfl⟩ := h.unique hfirst.unlessConflict
    exact ⟨_, hfirst⟩
  | error e =>
    rw [hr] at hfirst
    cases he : e.isConflict with
    | true =>
      obtain ⟨rfl, -, rfl⟩ := h.unique (hfirst.unlessConflict_conflict he)
      exact ⟨_, hfirst⟩
    | false =>
      obtain ⟨rfl, -, rfl⟩ := h.unique (hfirst.unlessConflict_error he)
      exact ⟨_, hfirst⟩

theorem api_inv {c : Call} {r : c.Reply} (h : Runs answer (Controller.api c) s t r s') :
    answer (.api c) s = (r, s') ∧ t = [⟨.api c, r⟩] := by
  have hcall : Runs answer (Controller.api c) s _ (answer (.api c) s).1 (answer (.api c) s).2 :=
    .api rfl
  obtain ⟨rfl, rfl, rfl⟩ := h.unique hcall
  exact ⟨rfl, rfl⟩

/-- Where no step fails a call is answered, and what follows goes on with the answer. -/
theorem api_bind_inv {c : Call} {f : c.Answer → Controller β} {r : Except Error β}
    (h : Runs answer (Controller.api c >>= f) s t r s') (ht : ∀ e ∈ t, Event.Succeeded e) :
    ∃ a s₁ t', answer (.api c) s = (.ok a, s₁) ∧ Runs answer (f a) s₁ t' r s' ∧
      (∀ e ∈ t', Event.Succeeded e) ∧ t = ⟨.api c, .ok a⟩ :: t' := by
  rcases h.bind_inv with ⟨e, hcall, -⟩ | ⟨a, t₁, s₁, t₂, hcall, hrest, rfl⟩
  · obtain ⟨-, rfl⟩ := hcall.api_inv
    obtain ⟨a, ha⟩ := ht _ List.mem_cons_self
    cases ha
  · obtain ⟨hanswer, rfl⟩ := hcall.api_inv
    exact ⟨a, s₁, t₂, hanswer, hrest, fun e he => ht e (List.mem_append_right _ he), rfl⟩

theorem memory_bind_inv {c : MemoryCall} {f : c.Reply → Controller β} {r : Except Error β}
    (h : Runs answer (Controller.memory c >>= f) s t r s') :
    ∃ t', Runs answer (f (answer (.memory c) s).1) (answer (.memory c) s).2 t' r s' ∧
      t = ⟨.memory c, (answer (.memory c) s).1⟩ :: t' := by
  have hrest := Runs.refl answer (f (answer (.memory c) s).1) (answer (.memory c) s).2
  obtain ⟨rfl, rfl, rfl⟩ := h.unique ((Runs.memory rfl).bind hrest)
  exact ⟨_, hrest, rfl⟩

/-- A write that did not fail went through. -/
theorem unlessConflict_api_inv {c : Call} {r : Except Error (Option c.Answer)}
    (h : Runs answer (Controller.unlessConflict (Controller.api c)) s t r s')
    (ht : ∀ e ∈ t, Event.Succeeded e) :
    ∃ a, answer (.api c) s = (.ok a, s') ∧ r = .ok (some a) := by
  rcases ha : answer (.api c) s with ⟨result, s₁⟩
  have hcall := Runs.api ha
  cases result with
  | ok a =>
    obtain ⟨rfl, rfl, rfl⟩ := h.unique hcall.unlessConflict
    exact ⟨a, rfl, rfl⟩
  | error e =>
    have hfailed : t = [⟨.api c, .error e⟩] := by
      cases he : e.isConflict with
      | true => exact (h.unique (hcall.unlessConflict_conflict he)).1
      | false => exact (h.unique (hcall.unlessConflict_error he)).1
    obtain ⟨a, hok⟩ := ht _ (hfailed ▸ List.mem_singleton_self _)
    cases hok

end Runs

/-- The controller takes no steps but such that satisfy `P`, whatever the replies are. -/
def Only (P : Step → Prop) (x : Controller α) : Prop := Program.Only P x.run

namespace Only

variable {P : Step → Prop} {x : Controller α} {f : α → Controller β}

protected theorem pure {a : α} : Only P (pure a : Controller α) := True.intro

protected theorem throw {e : Error} : Only P (throw e : Controller α) := True.intro

protected theorem api {c : Call} (h : P (.api c)) : Only P (api c) := ⟨h, fun _ => True.intro⟩

protected theorem memory {c : MemoryCall} (h : P (.memory c)) : Only P (memory c) :=
  ⟨h, fun _ => True.intro⟩

protected theorem bind (hx : Only P x) (hf : ∀ a, Only P (f a)) : Only P (x >>= f) := by
  refine Program.Only.bind hx ?_
  intro r
  cases r with
  | ok a => exact hf a
  | error e => exact True.intro

protected theorem tryCatch {handle : Error → Controller α} (hx : Only P x)
    (hh : ∀ e, Only P (handle e)) : Only P (tryCatch x handle) := by
  refine Program.Only.bind hx ?_
  intro r
  cases r with
  | ok a => exact True.intro
  | error e => exact hh e

protected theorem ite {c : Prop} [Decidable c] {y : Controller α} (hx : Only P x)
    (hy : Only P y) : Only P (if c then x else y) := by
  split <;> assumption

protected theorem lift (r : Except Error α) : Only P (liftM r : Controller α) := by
  cases r with
  | ok a => exact .pure
  | error e => exact .throw

protected theorem unlessConflict (hx : Only P x) : Only P (unlessConflict x) :=
  .tryCatch (.bind hx fun _ => .pure) fun _ => .ite .pure .throw

theorem forall_events {answer : (c : Step) → σ → c.Reply × σ} {s s' : σ} {t : List Event}
    {r : Except Error α} (hx : Only P x) (h : Runs answer x s t r s') : ∀ e ∈ t, P e.1 :=
  h.trace ▸ Program.Only.forall_trace hx s

/-- What only looks things up comes to the same in two states, unless one of the things is answered
differently. -/
theorem exists_reply_ne {answer : (c : Step) → σ → c.Reply × σ} {s s' : σ} (hx : Only P x)
    (hs : ∀ c, P c → (answer c s).2 = s) (hs' : ∀ c, P c → (answer c s').2 = s')
    (hne : (exec answer x s').1 ≠ (exec answer x s).1) :
    ∃ c, P c ∧ (answer c s').1 ≠ (answer c s).1 := by
  refine Classical.byContradiction fun hnone => hne ?_
  have hstep : ∀ c, P c → ∀ s₁ s₁', s₁ = s ∧ s₁' = s' →
      (answer c s₁').1 = (answer c s₁).1 ∧ ((answer c s₁).2 = s ∧ (answer c s₁').2 = s') := by
    rintro c hc _ _ ⟨rfl, rfl⟩
    exact ⟨Classical.byContradiction fun h => hnone ⟨c, hc, h⟩, hs c hc, hs' c hc⟩
  exact (Program.Only.run_congr hstep hx ⟨rfl, rfl⟩).2.1

end Only

end Controller

end ControlPlane
