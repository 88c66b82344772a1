import ControlPlane.Proofs.Controller.Basic

/-!
# Programs and what has happened before

Some calls are in order only after others: a write after the read that it was computed from, a
binding after its role. `Program.Ensures` follows a program through all replies that it can get and
keeps the history. Each call has to be one that is allowed after what has happened before, and the
result has to fit the whole history. There is a rule for each way in which programs are put
together, and what is ensured holds of every trace.
-/

namespace ControlPlane

namespace Program

variable {Call : Type} {Reply : Call → Type} {α β σ : Type}

/-- The program goes on from a history with no calls but such as `P` allows after what has happened
before, whatever the replies are, and its result and the whole history satisfy `Q`. -/
def Ensures (P : List ((c : Call) × Reply c) → Call → Prop)
    (Q : α → List ((c : Call) × Reply c) → Prop) :
    Program Call Reply α → List ((c : Call) × Reply c) → Prop
  | done a, h => Q a h
  | call c next, h => P h c ∧ ∀ r, (next r).Ensures P Q (h ++ [⟨c, r⟩])

namespace Ensures

variable {P : List ((c : Call) × Reply c) → Call → Prop}
  {Q Q' : α → List ((c : Call) × Reply c) → Prop} {R : β → List ((c : Call) × Reply c) → Prop}
  {p : Program Call Reply α} {h : List ((c : Call) × Reply c)}

theorem bind (hp : p.Ensures P Q h) {f : α → Program Call Reply β}
    (hf : ∀ a h', Q a h' → (f a).Ensures P R h') : (p.bind f).Ensures P R h := by
  induction p generalizing h with
  | done a => exact hf a h hp
  | call c next ih => exact ⟨hp.1, fun r => ih r (hp.2 r)⟩

theorem mono (hp : p.Ensures P Q h) (hQ : ∀ a h', Q a h' → Q' a h') : p.Ensures P Q' h := by
  induction p generalizing h with
  | done a => exact hQ a h hp
  | call c next ih => exact ⟨hp.1, fun r => ih r (hp.2 r)⟩

/-- What has happened stays part of the history. -/
theorem grows (hp : p.Ensures P Q h) : p.Ensures P (fun a h' => h ⊆ h' ∧ Q a h') h := by
  induction p generalizing h with
  | done a => exact ⟨List.Subset.refl h, hp⟩
  | call c next ih =>
    refine ⟨hp.1, fun r => (ih r (hp.2 r)).mono ?_⟩
    rintro a h' ⟨hsub, hQ⟩
    exact ⟨List.Subset.trans (List.subset_append_left h _) hsub, hQ⟩

/-- Of calls that are always allowed it does not matter in which order they come. -/
theorem of_only {A : Call → Prop} (hp : p.Only A)
    (hP : ∀ t c, (∀ e ∈ t, A e.1) → A c → P (h ++ t) c) :
    p.Ensures P (fun _ h' => ∃ t, h' = h ++ t ∧ ∀ e ∈ t, A e.1) h := by
  induction p generalizing h with
  | done a => exact ⟨[], by simp, fun _ he => nomatch he⟩
  | call c next ih =>
    refine ⟨by simpa using hP [] c (fun _ he => nomatch he) hp.1, fun r => ?_⟩
    refine (ih r (hp.2 r) fun t c' ht hc' => ?_).mono ?_
    · simpa using hP (⟨c, r⟩ :: t) c' (List.forall_mem_cons.2 ⟨hp.1, ht⟩) hc'
    · rintro _ h' ⟨t, rfl, ht⟩
      exact ⟨⟨c, r⟩ :: t, by simp, List.forall_mem_cons.2 ⟨hp.1, ht⟩⟩

/-- What is kept by each of the calls is kept by all of them. -/
theorem of_invariant {A : Call → Prop} {I : List ((c : Call) × Reply c) → Prop} (hp : p.Only A)
    (hI : I h) (hstep : ∀ h c, I h → A c → P h c ∧ ∀ r, I (h ++ [⟨c, r⟩])) :
    p.Ensures P (fun _ h' => I h') h := by
  induction p generalizing h with
  | done a => exact hI
  | call c next ih =>
    obtain ⟨hP, hkept⟩ := hstep h c hI hp.1
    exact ⟨hP, fun r => ih r (hp.2 r) (hkept r)⟩

/-- In a trace each call is allowed after the events before it. -/
theorem of_trace {answer : (c : Call) → σ → Reply c × σ} {s : σ} (hp : p.Ensures P Q h)
    {before after : List ((c : Call) × Reply c)} {e : (c : Call) × Reply c}
    (ht : p.trace answer s = before ++ e :: after) : P (h ++ before) e.1 := by
  induction p generalizing h s before with
  | done a => simp [trace] at ht
  | call c next ih =>
    cases before with
    | nil =>
      obtain ⟨rfl, -⟩ := List.cons.inj ht
      simpa using hp.1
    | cons d before =>
      obtain ⟨rfl, hrest⟩ := List.cons.inj ht
      simpa using ih _ (hp.2 _) hrest

/-- The result and the whole history are as ensured. -/
theorem of_run {answer : (c : Call) → σ → Reply c × σ} {s : σ} (hp : p.Ensures P Q h) :
    Q (p.run answer s).1 (h ++ p.trace answer s) := by
  induction p generalizing h s with
  | done a =>
    rw [trace, List.append_nil]
    exact hp
  | call c next ih =>
    simpa only [trace, run, List.append_assoc, List.singleton_append] using ih _ (hp.2 _)

end Ensures

/-- Where nothing is asked for, it is ensured. -/
theorem ensures_true (p : Program Call Reply α) (h : List ((c : Call) × Reply c)) :
    p.Ensures (fun _ _ => True) (fun _ _ => True) h := by
  induction p generalizing h with
  | done a => exact True.intro
  | call c next ih => exact ⟨True.intro, fun r => ih r _⟩

/-- Given the replies in the events, the program makes just these calls and comes to the result. -/
def Replays : Program Call Reply α → List ((c : Call) × Reply c) → α → Prop
  | done a, t, b => t = [] ∧ a = b
  | call c next, t, b => ∃ r t', t = ⟨c, r⟩ :: t' ∧ (next r).Replays t' b

namespace Replays

theorem of_run (answer : (c : Call) → σ → Reply c × σ) (p : Program Call Reply α) (s : σ) :
    p.Replays (p.trace answer s) (p.run answer s).1 := by
  induction p generalizing s with
  | done a => exact ⟨rfl, rfl⟩
  | call c next ih => exact ⟨_, _, rfl, ih _ _⟩

end Replays

end Program

namespace Controller

variable {α β σ : Type}

/-- The controller goes on from a history with no steps but such as `P` allows after what has
happened before, and its result and the whole history satisfy `Q`. -/
def Ensures (P : List Event → Step → Prop) (Q : Except Error α → List Event → Prop)
    (x : Controller α) (h : List Event) : Prop :=
  Program.Ensures P Q x.run h

namespace Ensures

variable {P : List Event → Step → Prop} {Q Q' : Except Error α → List Event → Prop}
  {R : Except Error β → List Event → Prop} {x : Controller α} {f : α → Controller β}
  {h : List Event}

theorem mono (hx : Ensures P Q x h) (hQ : ∀ r h', Q r h' → Q' r h') : Ensures P Q' x h :=
  Program.Ensures.mono hx hQ

protected theorem pure {a : α} (hQ : Q (.ok a) h) : Ensures P Q (pure a) h := hQ

protected theorem throw {e : Error} (hQ : Q (.error e) h) : Ensures P Q (throw e) h := hQ

theorem lift {r : Except Error α} (hQ : Q r h) : Ensures P Q (liftM r) h := by
  cases r <;> exact hQ

protected theorem api {c : Call} {Q : c.Reply → List Event → Prop} (hP : P h (.api c))
    (hQ : ∀ r, Q r (h ++ [⟨.api c, r⟩])) : Ensures P Q (api c) h :=
  ⟨hP, hQ⟩

/-- What a call was answered is on record. -/
theorem api_told {c : Call} (hP : P h (.api c)) :
    Ensures P (fun r h' => ⟨.api c, r⟩ ∈ h') (api c) h :=
  .api hP fun _ => List.mem_append_right _ (List.mem_singleton_self _)

protected theorem memory {c : MemoryCall} {Q : Except Error c.Reply → List Event → Prop}
    (hP : P h (.memory c)) (hQ : ∀ r, Q (.ok r) (h ++ [⟨.memory c, r⟩])) :
    Ensures P Q (memory c) h :=
  ⟨hP, hQ⟩

/-- What follows knows what has happened and how it ended. -/
protected theorem bind (hx : Ensures P Q x h)
    (herror : ∀ e h', h ⊆ h' → Q (.error e) h' → R (.error e) h')
    (hf : ∀ a h', h ⊆ h' → Q (.ok a) h' → Ensures P R (f a) h') : Ensures P R (x >>= f) h := by
  refine Program.Ensures.bind (Program.Ensures.grows hx) ?_
  rintro r h' ⟨hsub, hQ⟩
  cases r with
  | ok a => exact hf a h' hsub hQ
  | error e => exact herror e h' hsub hQ

protected theorem tryCatch {handle : Error → Controller α} (hx : Ensures P Q x h)
    (hok : ∀ a h', h ⊆ h' → Q (.ok a) h' → Q' (.ok a) h')
    (hhandle : ∀ e h', h ⊆ h' → Q (.error e) h' → Ensures P Q' (handle e) h') :
    Ensures P Q' (tryCatch x handle) h := by
  refine Program.Ensures.bind (Program.Ensures.grows hx) ?_
  rintro r h' ⟨hsub, hQ⟩
  cases r with
  | ok a => exact hok a h' hsub hQ
  | error e => exact hhandle e h' hsub hQ

/-- A conflict is taken note of, and other errors are passed on. -/
protected theorem unlessConflict {Q' : Except Error (Option α) → List Event → Prop}
    (hx : Ensures P Q x h) (hok : ∀ a h', h ⊆ h' → Q (.ok a) h' → Q' (.ok (some a)) h')
    (hconflict : ∀ e h', h ⊆ h' → Q (.error e) h' → Q' (.ok none) h')
    (herror : ∀ e h', h ⊆ h' → Q (.error e) h' → Q' (.error e) h') :
    Ensures P Q' (unlessConflict x) h := by
  refine Program.Ensures.bind (Program.Ensures.bind (Program.Ensures.grows hx)
    (R := fun r h' => h ⊆ h' ∧ ∃ r', Q r' h' ∧ r = r'.map some) ?_) ?_
  · rintro r h' ⟨hsub, hQ⟩
    cases r <;> exact ⟨hsub, _, hQ, rfl⟩
  · rintro _ h' ⟨hsub, r, hQ, rfl⟩
    cases r with
    | ok a => exact hok a h' hsub hQ
    | error e =>
      show Ensures P Q' (if e.isConflict then pure none else throw e) h'
      split
      · exact hconflict e h' hsub hQ
      · exact herror e h' hsub hQ

protected theorem ite {c : Prop} [Decidable c] {y : Controller α} (hx : c → Ensures P Q x h)
    (hy : ¬ c → Ensures P Q y h) : Ensures P Q (if c then x else y) h := by
  split
  · next hc => exact hx hc
  · next hc => exact hy hc

/-- A write that may meet a conflict. -/
theorem unlessConflict_api {c : Call} {Q : Except Error (Option c.Answer) → List Event → Prop}
    (hP : P h (.api c)) (hok : ∀ a, Q (.ok (some a)) (h ++ [⟨.api c, .ok a⟩]))
    (hconflict : ∀ e, e.isConflict = true → Q (.ok none) (h ++ [⟨.api c, .error e⟩]))
    (herror : ∀ e, e.isConflict = false → Q (.error e) (h ++ [⟨.api c, .error e⟩])) :
    Ensures P Q (Controller.unlessConflict (Controller.api c)) h := by
  refine ⟨hP, fun r => ?_⟩
  cases r with
  | ok a => exact hok a
  | error e =>
    show Ensures P Q (if e.isConflict then pure none else throw e) _
    split
    · next he => exact hconflict e he
    · next he => exact herror e (Bool.eq_false_iff.2 he)

/-- Every run is as ensured. -/
theorem of_runs {answer : (c : Step) → σ → c.Reply × σ} {s s' : σ} {t : List Event}
    {r : Except Error α} (hx : Ensures P Q x h) (hrun : Runs answer x s t r s') : Q r (h ++ t) :=
  hrun.of_program (P := fun t r _ => Q r (h ++ t)) (Program.Ensures.of_run hx)

/-- Steps that are always allowed are allowed in any order. -/
theorem of_only {A : Step → Prop} (hx : Only A x)
    (hP : ∀ t c, (∀ e ∈ t, A e.1) → A c → P (h ++ t) c) :
    Ensures P (fun _ h' => ∃ t, h' = h ++ t ∧ ∀ e ∈ t, A e.1) x h :=
  Program.Ensures.of_only hx hP

theorem of_invariant {A : Step → Prop} {I : List Event → Prop} (hx : Only A x) (hI : I h)
    (hstep : ∀ h c, I h → A c → P h c ∧ ∀ r, I (h ++ [⟨c, r⟩])) :
    Ensures P (fun _ h' => I h') x h :=
  Program.Ensures.of_invariant hx hI hstep

end Ensures

/-- Given the replies in the events, the controller takes just these steps and comes to the
result. -/
def Replays (x : Controller α) (t : List Event) (r : Except Error α) : Prop :=
  Program.Replays x.run t r

namespace Replays

variable {x : Controller α} {t : List Event}

theorem of_runs {answer : (c : Step) → σ → c.Reply × σ} {s s' : σ} {r : Except Error α}
    (h : Runs answer x s t r s') : Replays x t r :=
  h.of_program (P := fun t r _ => Replays x t r) (Program.Replays.of_run answer x.run s)

end Replays

end Controller

end ControlPlane
