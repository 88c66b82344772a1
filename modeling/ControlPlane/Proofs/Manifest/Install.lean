import ControlPlane.Manifest.Install
import ControlPlane.Proofs.Retry

/-!
# The order in which manifests are applied

One manifest after another is tried until it is applied. A manifest that is never applied is tried
as often as is allowed, and then nothing else is tried. What comes of an attempt may depend on all
the attempts before it.
-/

namespace ControlPlane.KindManifest

variable {ε α : Type}

/-- The attempts so far: which manifest was tried, and what came of it. -/
abbrev Tries (ε α : Type) := List (KindManifest × Except ε α)

/-- Tries a manifest; what comes of it depends on what was tried before. -/
def attempt (respond : Tries ε α → KindManifest → Except ε α) (x : KindManifest) :
    StateM (Tries ε α) (Except ε α) :=
  fun tries => (respond tries x, tries ++ [(x, respond tries x)])

/-- Every attempt has come out as it had to after those before it. -/
def Recorded (respond : Tries ε α → KindManifest → Except ε α) (tries : Tries ε α) : Prop :=
  ∀ before x r after, tries = before ++ (x, r) :: after → r = respond before x

/-- The attempts at a manifest that failed with these errors. -/
def inVain (x : KindManifest) (failures : List ε) : Tries ε α :=
  failures.map fun e => (x, .error e)

/-- The attempts at a manifest up to the one that applied it. -/
structure Round (ε α : Type) where
  manifest : KindManifest
  failures : List ε
  applied : α

def Round.tries (t : Round ε α) : Tries ε α :=
  inVain t.manifest t.failures ++ [(t.manifest, .ok t.applied)]

/-- These manifests were tried one after another, each until it was applied, at most `m` times. -/
def Applied (m : Nat) (manifests : List KindManifest) (tries : Tries ε α) : Prop :=
  ∃ rounds : List (Round ε α), rounds.map (·.manifest) = manifests ∧
    (∀ t ∈ rounds, t.failures.length < m) ∧ tries = rounds.flatMap Round.tries

/-- The manifests before `x` were applied. Then `x` was tried `m` times, each time in vain and at
last with the error `cause`, and nothing else was tried. -/
def EndsAt (m : Nat) (manifests : List KindManifest) (x : KindManifest) (cause : ε)
    (tries : Tries ε α) : Prop :=
  ∃ before after applied failures, manifests = before ++ x :: after ∧
    Applied m before applied ∧ failures.length = m ∧ failures.getLast? = some cause ∧
    tries = applied ++ inVain x failures

variable {respond : Tries ε α → KindManifest → Except ε α} {tries : Tries ε α} {m : Nat}
  {x : KindManifest} {manifests : List KindManifest} {c : RetryConfig}

theorem Recorded.attempt (h : Recorded respond tries) (x : KindManifest) :
    Recorded respond (tries ++ [(x, respond tries x)]) := by
  intro before y r after heq
  rcases List.eq_nil_or_concat after with rfl | ⟨after, last, rfl⟩
  · obtain ⟨rfl, hlast⟩ := List.append_inj' heq rfl
    obtain ⟨rfl, rfl⟩ := Prod.mk.inj (List.singleton_inj.1 hlast)
    rfl
  · rw [List.concat_eq_append, ← List.cons_append, ← List.append_assoc] at heq
    exact h before y r after (List.append_inj' heq rfl).1

/-! ### One manifest -/

section OneManifest

variable {fuel n : Nat}

theorem run_attempt (respond : Tries ε α → KindManifest → Except ε α) (x : KindManifest)
    (tries : Tries ε α) :
    (attempt respond x).run tries = pure (respond tries x, tries ++ [(x, respond tries x)]) := rfl

theorem retrying_ok {a : α} (h : respond tries x = .ok a) :
    (retrying c (attempt respond x) (fun _ => pure ()) (fuel + 1) n).run tries =
      pure (.done (.ok a), tries ++ [(x, .ok a)]) := by
  rw [retrying_succ, StateT.run_bind, run_attempt, pure_bind, h]
  rfl

theorem retrying_last {e : ε} (h : respond tries x = .error e) (hlast : c.isLast n = true) :
    (retrying c (attempt respond x) (fun _ => pure ()) (fuel + 1) n).run tries =
      pure (.done (.error e), tries ++ [(x, .error e)]) := by
  rw [retrying_succ, StateT.run_bind, run_attempt, pure_bind, h]
  simp only [hlast, if_true]
  rfl

theorem retrying_again {e : ε} (h : respond tries x = .error e) (hlast : c.isLast n = false)
    (hdelay : (c.delayFor n).isSome) :
    (retrying c (attempt respond x) (fun _ => pure ()) (fuel + 1) n).run tries =
      (retrying c (attempt respond x) (fun _ => pure ()) fuel (n + 1)).run
        (tries ++ [(x, .error e)]) := by
  obtain ⟨d, hd⟩ := Option.isSome_iff_exists.1 hdelay
  rw [retrying_succ, StateT.run_bind, run_attempt, pure_bind, h]
  simp only [hlast, Bool.false_eq_true, if_false, hd, pure_bind]

/-- Retrying ends with the attempt that applies the manifest, or else with the last one that is
allowed. -/
theorem retrying_ends (hlimit : 0 < c.maxAttempts) (hdelay : ∀ n, (c.delayFor n).isSome)
    (hfuel : n + fuel = c.maxAttempts + 1) (hpos : 0 < fuel) (hrecorded : Recorded respond tries)
    (x : KindManifest) :
    (∃ t : Round ε α, t.manifest = x ∧ t.failures.length < fuel ∧
      (retrying c (attempt respond x) (fun _ => pure ()) fuel n).run tries =
        pure (.done (.ok t.applied), tries ++ t.tries) ∧ Recorded respond (tries ++ t.tries)) ∨
    ∃ failures cause, failures.length = fuel ∧ failures.getLast? = some cause ∧
      (retrying c (attempt respond x) (fun _ => pure ()) fuel n).run tries =
        pure (.done (.error cause), tries ++ inVain x failures) ∧
      Recorded respond (tries ++ inVain x failures) := by
  induction fuel generalizing n tries with
  | zero => omega
  | succ fuel ih =>
    have hnext := hrecorded.attempt x
    cases hr : respond tries x with
    | ok a =>
      rw [hr] at hnext
      exact .inl ⟨⟨x, [], a⟩, rfl, hpos, retrying_ok hr, hnext⟩
    | error e =>
      rw [hr] at hnext
      cases fuel with
      | zero =>
        have hlast : c.isLast n = true := by
          simp only [RetryConfig.isLast, Bool.and_eq_true, decide_eq_true_eq]
          omega
        exact .inr ⟨[e], e, rfl, rfl, retrying_last hr hlast, hnext⟩
      | succ fuel =>
        have hlast : c.isLast n = false := by
          simp only [RetryConfig.isLast, Bool.and_eq_false_iff, decide_eq_false_iff_not]
          omega
        rw [retrying_again hr hlast (hdelay n)]
        rcases ih (n := n + 1) (by omega) (Nat.succ_pos _) hnext with
          ⟨t, ht, hlength, hrun, hall⟩ | ⟨failures, cause, hlength, hcause, hrun, hall⟩
        · refine .inl ⟨⟨x, e :: t.failures, t.applied⟩, rfl, Nat.succ_lt_succ hlength, ?_, ?_⟩
          · rw [hrun]
            simp [Round.tries, inVain, ht]
          · simpa [Round.tries, inVain, ht] using hall
        · refine .inr ⟨e :: failures, cause, by simp [hlength], ?_, ?_, ?_⟩
          · rw [List.getLast?_cons, hcause]
            rfl
          · rw [hrun]
            simp [inVain]
          · simpa [inVain] using hall

end OneManifest

/-! ### All manifests -/

theorem Applied.nil : Applied m [] ([] : Tries ε α) := ⟨[], rfl, by simp, rfl⟩

theorem Applied.cons {t : Round ε α} (ht : t.failures.length < m)
    (h : Applied m manifests tries) : Applied m (t.manifest :: manifests) (t.tries ++ tries) := by
  obtain ⟨rounds, rfl, hall, rfl⟩ := h
  exact ⟨t :: rounds, rfl, List.forall_mem_cons.2 ⟨ht, hall⟩, rfl⟩

/-- The last attempt of a round applied its manifest. -/
theorem Applied.getLast? (h : Applied m manifests tries) :
    ∀ e ∈ tries.getLast?, ∃ a, e.2 = .ok a := by
  obtain ⟨rounds, -, -, rfl⟩ := h
  intro e he
  rcases List.eq_nil_or_concat rounds with rfl | ⟨rounds, t, rfl⟩
  · simp at he
  · refine ⟨t.applied, ?_⟩
    simp [Round.tries] at he
    rw [← he]

theorem EndsAt.getLast? {cause : ε} (h : EndsAt m manifests x cause tries) :
    tries.getLast? = some (x, .error cause) := by
  obtain ⟨before, after, applied, failures, -, -, -, hcause, rfl⟩ := h
  simp [inVain, hcause]

theorem EndsAt.not_applied {cause : ε} (h : EndsAt m manifests x cause tries) :
    ¬ Applied m manifests tries := by
  intro happlied
  obtain ⟨a, ha⟩ := happlied.getLast? _ h.getLast?
  cases ha

theorem EndsAt.unique {y : KindManifest} {cause cause' : ε} (h : EndsAt m manifests x cause tries)
    (h' : EndsAt m manifests y cause' tries) : x = y ∧ cause = cause' := by
  have hlast := h.getLast?.symm.trans h'.getLast?
  simpa using hlast

/-- Installing manifests ends. -/
theorem applyAll_ends (hlimit : 0 < c.maxAttempts) (hdelay : ∀ n, (c.delayFor n).isSome)
    (hrecorded : Recorded respond tries) (manifests : List KindManifest) :
    ∃ result new,
      (applyAll c (attempt respond) (fun _ => pure ()) manifests).run tries =
        pure (.done result, tries ++ new) ∧ Recorded respond (tries ++ new) ∧
      ((result = .ok () ∧ Applied c.maxAttempts manifests new) ∨
        ∃ x cause, result = .error ⟨x, cause⟩ ∧
          EndsAt c.maxAttempts manifests x cause new) := by
  induction manifests generalizing tries with
  | nil => exact ⟨.ok (), [], by simp [applyAll], by simpa using hrecorded, .inl ⟨rfl, .nil⟩⟩
  | cons x rest ih =>
    rcases retrying_ends hlimit hdelay (Nat.add_comm 1 _) hlimit hrecorded x with
      ⟨t, rfl, hlength, hrun, hall⟩ | ⟨failures, cause, hlength, hcause, hrun, hall⟩
    · obtain ⟨result, new, hrest, hall', hends⟩ := ih hall
      refine ⟨result, t.tries ++ new, ?_, by rwa [← List.append_assoc], ?_⟩
      · rw [applyAll, StateT.run_bind, hrun, pure_bind]
        simpa using hrest
      · rcases hends with ⟨rfl, happlied⟩ | ⟨y, cause, rfl, before, after, applied, failures, rfl,
          happlied, hlength', hcause, rfl⟩
        · exact .inl ⟨rfl, happlied.cons hlength⟩
        · exact .inr ⟨y, cause, rfl, t.manifest :: before, after, t.tries ++ applied, failures,
            rfl, happlied.cons hlength, hlength', hcause, (List.append_assoc ..).symm⟩
    · refine ⟨.error ⟨x, cause⟩, inVain x failures, ?_, hall, .inr ⟨x, cause, rfl, ?_⟩⟩
      · rw [applyAll, StateT.run_bind, hrun, pure_bind]
        rfl
      · exact ⟨[], rest, [], failures, rfl, .nil, hlength, hcause, rfl⟩

/-- Manifests are applied in the order in which they are listed. The installation ends, with all
manifests applied, each after less than the allowed number of failures, or with an error; it
succeeds just in the first case. The error names a manifest before which all were applied, and
which was tried as often as is allowed in vain, and it has the cause that came up at last; nothing
was tried after that. -/
theorem applyAll_in_order {c : RetryConfig} (hlimit : 0 < c.maxAttempts)
    (hfactor : c.multiplier.isNegative = false)
    (hceiling : c.maxDelay.toBinary64.isFinite = true)
    (respond : Tries ε α → KindManifest → Except ε α) (manifests : List KindManifest) :
    ∃ result tries,
      (applyAll c (attempt respond) (fun _ => pure ()) manifests).run [] =
        (.done result, tries) ∧
      Recorded respond tries ∧
      (result = .ok () ∨ ∃ failure, result = .error failure) ∧
      (result = .ok () ↔ Applied c.maxAttempts manifests tries) ∧
      ∀ x cause, result = .error ⟨x, cause⟩ ↔ EndsAt c.maxAttempts manifests x cause tries := by
  obtain ⟨result, tries, hrun, hrecorded, hends⟩ :=
    applyAll_ends hlimit (RetryConfig.isSome_delayFor hfactor hceiling)
      (show Recorded respond [] by simp [Recorded]) manifests
  refine ⟨result, tries, hrun, hrecorded, ?_⟩
  rcases hends with ⟨rfl, happlied⟩ | ⟨x, cause, rfl, hx⟩
  · refine ⟨.inl rfl, iff_of_true rfl happlied, fun x cause => ?_⟩
    exact iff_of_false nofun fun hx => hx.not_applied happlied
  · refine ⟨.inr ⟨_, rfl⟩, iff_of_false nofun hx.not_applied, fun y cause' => ⟨?_, fun hy => ?_⟩⟩
    · rintro ⟨⟩
      exact hx
    · obtain ⟨rfl, rfl⟩ := hx.unique hy
      rfl

/-- The first attempt of all fails, and so does every attempt at the second manifest: the first one
is applied all the same, and the third one is never tried. -/
theorem applyAll_in_order_until_failure :
    let manifest (kind : String) : KindManifest := ⟨kind, kind, false, [], [], none⟩
    let manifests := [manifest "Provider", manifest "Tenant", manifest "Policy"]
    let respond : Tries Nat Unit → KindManifest → Except Nat Unit := fun tries x =>
      if tries.isEmpty || x.kind = "Tenant" then .error tries.length else .ok ()
    ∃ x tries,
      (applyAll { maxAttempts := 3 } (attempt respond) (fun _ => pure ()) manifests).run [] =
        (.done (.error ⟨x, 4⟩), tries) ∧
      tries.map (·.1.kind) = ["Provider", "Provider", "Tenant", "Tenant", "Tenant"] ∧
      EndsAt 3 manifests x 4 tries := by
  intro manifest manifests respond
  obtain ⟨result, tries, hrun, -, -, -, hends⟩ :=
    applyAll_in_order (c := { maxAttempts := 3 }) (by decide) (by decide +kernel)
      (by decide +kernel) respond manifests
  have hcause : (match ((applyAll { maxAttempts := 3 } (attempt respond) (fun _ => pure ())
      manifests).run []).1 with
    | .done (.error f) => some f.cause
    | _ => none) = some 4 := by decide +kernel
  have htried : ((applyAll { maxAttempts := 3 } (attempt respond) (fun _ => pure ())
      manifests).run []).2.map (·.1.kind) =
        ["Provider", "Provider", "Tenant", "Tenant", "Tenant"] := by decide +kernel
  rw [hrun] at hcause htried
  cases result with
  | ok _ => cases hcause
  | error f =>
    obtain ⟨x, cause⟩ := f
    obtain rfl : cause = 4 := Option.some.inj hcause
    exact ⟨x, tries, hrun, htried, (hends x 4).1 rfl⟩

end ControlPlane.KindManifest
