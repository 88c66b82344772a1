/-!
# Computations that can fail

What a computation made of parts has succeeded with says what its parts have succeeded with.
-/

namespace Except

variable {ε ε' α β : Type}

theorem bind_eq_ok {x : Except ε α} {f : α → Except ε β} {b : β} :
    (x >>= f) = .ok b ↔ ∃ a, x = .ok a ∧ f a = .ok b := by
  cases x <;> simp [bind, Except.bind]

theorem ite_throw_eq_ok {c : Prop} [Decidable c] {e : ε} {f : α → Except ε β} {x : Except ε β}
    {b : β} : (if c then throw e >>= f else x) = .ok b ↔ ¬ c ∧ x = .ok b := by
  by_cases h : c <;> simp [h, throw, throwThe, MonadExceptOf.throw, bind, Except.bind]

theorem map_eq_ok {x : Except ε α} {f : α → β} {b : β} :
    x.map f = .ok b ↔ ∃ a, x = .ok a ∧ f a = b := by
  cases x <;> simp [Except.map]

theorem toOption_eq_some {x : Except ε α} {a : α} : x.toOption = some a ↔ x = .ok a := by
  cases x <;> simp [Except.toOption]

@[simp] theorem mapError_ok {f : ε → ε'} {a : α} : (ok a).mapError f = ok a := rfl

theorem mapError_eq_ok {x : Except ε α} {f : ε → ε'} {a : α} :
    x.mapError f = .ok a ↔ x = .ok a := by
  cases x with
  | ok b => rw [mapError_ok, ok.injEq, ok.injEq]
  | error e => exact ⟨nofun, nofun⟩

theorem mapM_cons_eq_ok {f : α → Except ε β} {a : α} {as : List α} {bs : List β} :
    (a :: as).mapM f = .ok bs ↔ ∃ b cs, f a = .ok b ∧ as.mapM f = .ok cs ∧ bs = b :: cs := by
  rw [List.mapM_cons, bind_eq_ok]
  constructor
  · rintro ⟨b, hb, h⟩
    obtain ⟨cs, hcs, h⟩ := bind_eq_ok.1 h
    exact ⟨b, cs, hb, hcs, (Except.ok.inj h).symm⟩
  · rintro ⟨b, cs, hb, hcs, rfl⟩
    exact ⟨b, hb, bind_eq_ok.2 ⟨cs, hcs, rfl⟩⟩

/-- What is read item by item are the readings of the items. -/
theorem mem_iff_of_mapM_eq_ok {f : α → Except ε β} {as : List α} {bs : List β}
    (h : as.mapM f = .ok bs) {b : β} : b ∈ bs ↔ ∃ a ∈ as, f a = .ok b := by
  induction as generalizing bs with
  | nil =>
    obtain rfl : bs = [] := (Except.ok.inj h).symm
    simp
  | cons a as ih =>
    obtain ⟨c, cs, hc, hcs, rfl⟩ := mapM_cons_eq_ok.1 h
    simp only [List.mem_cons, ih hcs, exists_eq_or_imp, hc, ok.injEq, eq_comm (a := b)]

/-- Where each item can be read all can be, and what they have in common stays. -/
theorem exists_mapM_eq_ok {γ : Type} {f : α → Except ε β} {key : α → γ} {key' : β → γ}
    {as : List α} (h : ∀ a ∈ as, ∃ b, f a = .ok b ∧ key' b = key a) :
    ∃ bs, as.mapM f = .ok bs ∧ bs.map key' = as.map key := by
  induction as with
  | nil => exact ⟨[], rfl, rfl⟩
  | cons a as ih =>
    obtain ⟨b, hb, hkey⟩ := h a List.mem_cons_self
    obtain ⟨bs, hbs, hkeys⟩ := ih fun x hx => h x (List.mem_cons_of_mem _ hx)
    exact ⟨b :: bs, mapM_cons_eq_ok.2 ⟨b, bs, hb, hbs, rfl⟩, by
      rw [List.map_cons, List.map_cons, hkey, hkeys]⟩

/-- What is written item by item is read item by item. -/
theorem mapM_map_eq_map {γ : Type} {f : γ → Except ε β} {g : β → γ} {r : β → β} {bs : List β}
    (h : ∀ b ∈ bs, f (g b) = .ok (r b)) : (bs.map g).mapM f = .ok (bs.map r) := by
  induction bs with
  | nil => rfl
  | cons b bs ih =>
    rw [List.map_cons, mapM_cons_eq_ok]
    exact ⟨r b, bs.map r, h b List.mem_cons_self,
      ih fun c hc => h c (List.mem_cons_of_mem _ hc), rfl⟩

theorem mapM_map_eq_ok {γ : Type} {f : γ → Except ε β} {g : β → γ} {bs : List β}
    (h : ∀ b ∈ bs, f (g b) = .ok b) : (bs.map g).mapM f = .ok bs := by
  simpa using mapM_map_eq_map (r := id) h

/-- Items that can be read but are dropped then need not be there. -/
theorem filter_mapM {f : α → Except ε β} {keep : α → Bool} {q : β → Bool} {as : List α}
    (h : ∀ a ∈ as, keep a = false → ∃ b, f a = .ok b ∧ q b = false) :
    (as.mapM f).map (List.filter q) = ((as.filter keep).mapM f).map (List.filter q) := by
  have hcons (b : β) (x : Except ε (List β)) :
      (do let bs ← x; pure (b :: bs)).map (List.filter q) =
        (x.map (List.filter q)).map fun bs => if q b then b :: bs else bs := by
    cases x with
    | ok bs => exact congrArg Except.ok List.filter_cons
    | error e => rfl
  induction as with
  | nil => rfl
  | cons a as ih =>
    have hrest := ih fun b hb => h b (List.mem_cons_of_mem _ hb)
    rw [List.mapM_cons]
    cases hk : keep a with
    | true =>
      rw [List.filter_cons_of_pos hk, List.mapM_cons]
      cases f a with
      | ok b => exact (hcons b _).trans ((congrArg _ hrest).trans (hcons b _).symm)
      | error e => rfl
    | false =>
      obtain ⟨b, hb, hq⟩ := h a List.mem_cons_self hk
      rw [List.filter_cons_of_neg (by simp [hk]), ← hrest, hb]
      refine (hcons b _).trans ?_
      simp only [hq]
      cases (as.mapM f).map (List.filter q) <;> rfl

end Except
