/-!
# Programs that make calls

A program is done with a result, or makes a call and goes on with the reply. It does not say who
answers. `Program.run` answers the calls from a state, and respects sequencing.
-/

namespace ControlPlane

inductive Program (Call : Type) (Reply : Call → Type) (α : Type) where
  | done (result : α)
  | call (c : Call) (next : Reply c → Program Call Reply α)

namespace Program

variable {Call : Type} {Reply : Call → Type} {α β γ σ : Type}

def bind : Program Call Reply α → (α → Program Call Reply β) → Program Call Reply β
  | done a, f => f a
  | call c next, f => call c fun r => (next r).bind f

instance : Monad (Program Call Reply) where
  pure := done
  bind := bind

/-- One call. -/
def ask (c : Call) : Program Call Reply (Reply c) := call c done

/-- The result of a program whose calls are answered from a state, and the state afterwards. -/
def run (answer : (c : Call) → σ → Reply c × σ) : Program Call Reply α → σ → α × σ
  | done a, s => (a, s)
  | call c next, s => (next (answer c s).1).run answer (answer c s).2

@[simp] theorem pure_eq (a : α) : (pure a : Program Call Reply α) = done a := rfl

@[simp] theorem bind_eq (p : Program Call Reply α) (f : α → Program Call Reply β) :
    p >>= f = p.bind f := rfl

theorem bind_done (p : Program Call Reply α) : p.bind done = p := by
  induction p with
  | done a => rfl
  | call c next ih => simp only [bind]; congr 1; funext r; exact ih r

theorem bind_assoc (p : Program Call Reply α) (f : α → Program Call Reply β)
    (g : β → Program Call Reply γ) : (p.bind f).bind g = p.bind fun a => (f a).bind g := by
  induction p with
  | done a => rfl
  | call c next ih => simp only [bind]; congr 1; funext r; exact ih r

instance : LawfulMonad (Program Call Reply) :=
  LawfulMonad.mk' _ (fun p => bind_done p) (fun _ _ => rfl) (fun p f g => bind_assoc p f g)

theorem run_bind (answer : (c : Call) → σ → Reply c × σ) (p : Program Call Reply α)
    (f : α → Program Call Reply β) (s : σ) :
    (p.bind f).run answer s = (f (p.run answer s).1).run answer (p.run answer s).2 := by
  induction p generalizing s with
  | done a => rfl
  | call c next ih => exact ih _ _

end Program

end ControlPlane
