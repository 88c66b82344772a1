import ControlPlane.Program

/-!
# Traces of programs

The trace of a program is the calls that it makes and the replies that it gets, in order. What no
call of the trace changes, the program does not change.
-/

namespace ControlPlane.Program

variable {Call : Type} {Reply : Call → Type} {α β σ τ : Type}

/-- The calls of a program whose calls are answered from a state, each with its reply. -/
def trace (answer : (c : Call) → σ → Reply c × σ) :
    Program Call Reply α → σ → List ((c : Call) × Reply c)
  | done _, _ => []
  | call c next, s => ⟨c, (answer c s).1⟩ :: (next (answer c s).1).trace answer (answer c s).2

theorem trace_bind (answer : (c : Call) → σ → Reply c × σ) (p : Program Call Reply α)
    (f : α → Program Call Reply β) (s : σ) :
    (p.bind f).trace answer s =
      p.trace answer s ++ (f (p.run answer s).1).trace answer (p.run answer s).2 := by
  induction p generalizing s with
  | done a => rfl
  | call c next ih =>
    simp only [bind, trace, List.cons_append]
    rw [ih]
    rfl

/-- What the calls of the trace leave as it is stays. -/
theorem view_run {answer : (c : Call) → σ → Reply c × σ} (view : σ → τ)
    {p : Program Call Reply α} {s : σ}
    (h : ∀ e ∈ p.trace answer s, ∀ s, view (answer e.1 s).2 = view s) :
    view (p.run answer s).2 = view s := by
  induction p generalizing s with
  | done a => rfl
  | call c next ih =>
    have hrest := ih _ (s := (answer c s).2) fun e he => h e (List.mem_cons_of_mem _ he)
    exact hrest.trans (h _ List.mem_cons_self s)

/-- The program makes no calls but such that satisfy `P`, whatever the replies are. -/
def Only (P : Call → Prop) : Program Call Reply α → Prop
  | done _ => True
  | call c next => P c ∧ ∀ r, (next r).Only P

namespace Only

variable {P : Call → Prop} {p : Program Call Reply α}

theorem mono {Q : Call → Prop} (hp : p.Only P) (h : ∀ c, P c → Q c) : p.Only Q := by
  induction p with
  | done a => exact True.intro
  | call c next ih => exact ⟨h c hp.1, fun r => ih r (hp.2 r)⟩

theorem bind (hp : p.Only P) {f : α → Program Call Reply β} (hf : ∀ a, (f a).Only P) :
    (p.bind f).Only P := by
  induction p with
  | done a => exact hf a
  | call c next ih => exact ⟨hp.1, fun r => ih r (hp.2 r)⟩

theorem forall_trace {answer : (c : Call) → σ → Reply c × σ} (hp : p.Only P) (s : σ) :
    ∀ e ∈ p.trace answer s, P e.1 := by
  induction p generalizing s with
  | done a => exact fun _ he => nomatch he
  | call c next ih =>
    intro e he
    rcases List.mem_cons.1 he with rfl | he
    · exact hp.1
    · exact ih _ (hp.2 _) _ e he

/-- In states that answer all of its calls alike the program does the same. -/
theorem run_congr {answer : (c : Call) → σ → Reply c × σ} {R : σ → σ → Prop}
    (hstep : ∀ c, P c → ∀ s s', R s s' →
      (answer c s').1 = (answer c s).1 ∧ R (answer c s).2 (answer c s').2)
    (hp : p.Only P) {s s' : σ} (hR : R s s') :
    p.trace answer s' = p.trace answer s ∧ (p.run answer s').1 = (p.run answer s).1 ∧
      R (p.run answer s).2 (p.run answer s').2 := by
  induction p generalizing s s' with
  | done a => exact ⟨rfl, rfl, hR⟩
  | call c next ih =>
    obtain ⟨hreply, hafter⟩ := hstep c hp.1 s s' hR
    simp only [trace, run, hreply]
    obtain ⟨htrace, hrun⟩ := ih (answer c s).1 (hp.2 _) hafter
    exact ⟨by rw [htrace], hrun⟩

end Only

end ControlPlane.Program
