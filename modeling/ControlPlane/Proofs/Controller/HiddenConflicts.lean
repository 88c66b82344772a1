import ControlPlane.Proofs.Controller.Arbitration
import ControlPlane.Proofs.Controller.BackendWrites
import ControlPlane.Proofs.Controller.PartialGrants

/-!
# Conflicts are no errors

Every write of a controller is one that may meet a conflict, and none is thrown. Nor does a
controller make up a conflict of its own, so that a run that fails with one has got it from a
lookup.
-/

namespace ControlPlane

open Controller

/-! ## Errors of a controller's own -/

namespace Facade

variable {k : FacadeKind} {f : Facade k} {e : Error}

theorem isConflict_of_newBackend {resource : ApiResource} {spec : Json}
    (h : f.newBackend resource spec = .error e) : e.isConflict = false := by
  cases howner : f.metadata.ownerReference planeApiVersion k.kind with
  | ok owner => simp [newBackend, howner, bind, Except.bind, pure, Except.pure] at h
  | error e' =>
    simp only [newBackend, howner, bind, Except.bind, Except.error.injEq] at h
    exact h ▸ Metadata.isConflict_of_ownerReference howner

theorem isConflict_of_checkOwner {b : Backend} (h : f.checkOwner b = .error e) :
    e.isConflict = false := by
  obtain ⟨-, _, _, rfl⟩ := checkOwner_error h
  rfl

theorem isConflict_of_deriveStatus {now : Instant} {b : Backend}
    (h : f.deriveStatus now b = .error e) : e.isConflict = false := by
  unfold deriveStatus at h
  split at h
  · cases h
  · split at h
    · obtain rfl := Except.error.inj h
      rfl
    · cases h

end Facade

namespace Controller

variable {α β : Type} {x : Controller α} {f : α → Controller β}

/-- The result is no conflict, unless it is that of a lookup in the history. -/
def Hidden (r : Except Error α) (h : List Event) : Prop :=
  ∀ e, r = .error e → e.isConflict = true →
    ∃ c : Call, Step.IsLookup (.api c) ∧ (⟨.api c, .error e⟩ : Event) ∈ h

/-- The controller does not fail with a conflict, unless a lookup has. -/
def HidesConflicts (x : Controller α) : Prop :=
  ∀ h, Ensures (fun _ _ => True) (fun r h' => Hidden r h') x h

theorem Hidden.of_false {e : Error} (he : e.isConflict = false) (h : List Event) :
    Hidden (.error e : Except Error α) h := by
  rintro _ ⟨⟩ hconflict
  rw [he] at hconflict
  cases hconflict

theorem Hidden.cast {e : Error} {h : List Event} (he : Hidden (.error e : Except Error α) h) :
    Hidden (.error e : Except Error β) h := by
  rintro _ ⟨⟩ hconflict
  exact he e rfl hconflict

theorem Hidden.mono {r : Except Error α} {h h' : List Event} (hr : Hidden r h) (hh : h ⊆ h') :
    Hidden r h' := by
  intro e he hconflict
  obtain ⟨c, hc, hmem⟩ := hr e he hconflict
  exact ⟨c, hc, hh hmem⟩

namespace HidesConflicts

protected theorem pure {a : α} : HidesConflicts (pure a : Controller α) :=
  fun _ => .pure nofun

protected theorem throw {e : Error} (he : e.isConflict = false) :
    HidesConflicts (throw e : Controller α) :=
  fun h => .throw (.of_false he h)

theorem lift {r : Except Error α} (hr : ∀ e, r = .error e → e.isConflict = false) :
    HidesConflicts (liftM r : Controller α) := by
  intro h
  refine .lift ?_
  cases r with
  | ok a => exact nofun
  | error e => exact .of_false (hr e rfl) h

theorem lookup {c : Call} (hc : Step.IsLookup (.api c)) : HidesConflicts (api c) := by
  refine fun h => .api trivial fun r => ?_
  rintro e rfl -
  exact ⟨c, hc, by simp⟩

protected theorem memory {c : MemoryCall} : HidesConflicts (memory c) :=
  fun _ => .memory trivial fun _ => nofun

protected theorem bind (hx : HidesConflicts x) (hf : ∀ a, HidesConflicts (f a)) :
    HidesConflicts (x >>= f) :=
  fun h => (hx h).bind (fun _ _ _ he => he.cast) fun a h' _ _ => hf a h'

/-- Of a controller that handles all conflicts nothing is asked. -/
theorem handled {handle : Error → Controller α} (hh : ∀ e, HidesConflicts (handle e)) :
    HidesConflicts (tryCatch x handle) :=
  fun h => Ensures.tryCatch (Program.ensures_true x.run h) (fun _ _ _ _ => nofun)
    fun e h' _ _ => hh e h'

protected theorem unlessConflict : HidesConflicts (unlessConflict x) := by
  refine handled fun e => ?_
  cases he : e.isConflict with
  | true => exact .pure
  | false => exact .throw he

protected theorem ite {c : Prop} [Decidable c] {y : Controller α} (hx : HidesConflicts x)
    (hy : HidesConflicts y) : HidesConflicts (if c then x else y) := by
  split <;> assumption

end HidesConflicts

end Controller

/-! ## No run fails with a conflict -/

theorem Controller.gate_hides (a : Admission) : HidesConflicts (gate a) := by
  refine .bind (.lookup trivial) fun found => ?_
  cases found with
  | none => exact .pure
  | some i =>
    refine .ite .pure (.bind (.lookup trivial) fun policies => ?_)
    refine .ite (.bind (.lookup trivial) fun labels => ?_) (.bind .pure fun verdict => ?_)
    all_goals
      dsimp only
      split <;> exact .pure

theorem Controller.provider_hides (name key : String) :
    HidesConflicts (Controller.provider name key) := by
  refine .bind (.bind .memory fun seen => .ite (.lookup trivial) .pure) fun providers => ?_
  cases registered? providers name with
  | some p => exact .pure
  | none => exact .throw rfl

theorem Controller.backendResource_hides (p : Provider) (k : FacadeKind) :
    HidesConflicts (backendResource p k) := by
  unfold backendResource
  refine .ite (.bind (.throw rfl) fun _ => ?_) ?_
  all_goals
    refine .bind .memory fun known => ?_
    cases known with
    | some r => exact .pure
    | none =>
      refine .bind (.lookup trivial) fun served => ?_
      cases served with
      | some r => exact .bind .memory fun _ => .pure
      | none => exact .pure

namespace Facade

variable {k : FacadeKind}

theorem recordCondition_hides (f : Facade k) (c : Condition) :
    HidesConflicts (f.recordCondition c) := by
  unfold recordCondition
  split
  exact .ite (.bind .unlessConflict fun _ => .pure) .pure

/-- What keeps the provider from being found is thrown again, whatever becomes of the condition. -/
theorem provider_hides (f : Facade k) (now : Instant) (name : String) :
    HidesConflicts (Facade.provider now f name) := by
  refine fun h => (Controller.provider_hides name f.key h).tryCatch (fun _ _ _ _ => nofun) ?_
  intro e h' _ he
  have hthrow {h : List Event} (hsub : h' ⊆ h) : Ensures (fun _ _ => True)
      (fun r h' => Hidden r h') (throw e : Controller Provider) h :=
    .throw (he.mono hsub)
  cases e with
  | providerNotFound provider resource =>
    exact (recordCondition_hides f _ h').bind (fun _ _ _ he => he.cast)
      fun _ _ hsub _ => hthrow hsub
  | _ => exact hthrow (List.Subset.refl _)

theorem syncBackend_hides (f : Facade k) (resource : ApiResource) (ns : String) :
    HidesConflicts (f.syncBackend resource ns) := by
  refine .bind (.lookup trivial) fun found => ?_
  cases found with
  | none =>
    exact .bind (.lift fun _ => isConflict_of_newBackend) fun _ => .unlessConflict
  | some current =>
    exact .bind (.lift fun _ => isConflict_of_checkOwner) fun _ => .ite .pure .unlessConflict

theorem proceed_hides (f : Facade k) (interval : Duration) (now : Instant) (ns name : String) :
    HidesConflicts (f.proceed interval now ns name) := by
  rw [proceed_eq]
  refine .bind (f.provider_hides now name) fun p => ?_
  refine .bind (backendResource_hides p k) fun resource => .bind .memory fun _ => ?_
  refine .bind (f.syncBackend_hides resource ns) fun found => ?_
  cases found with
  | none => exact .pure
  | some b =>
    have hend : HidesConflicts (do
        memory (.forgetFailures (.facade k) f.key)
        return .requeue interval : Controller Action) := .bind .memory fun _ => .pure
    refine .bind (.lift fun _ => isConflict_of_deriveStatus) fun x => ?_
    exact .ite (.bind .unlessConflict fun _ => .ite .pure hend) hend

theorem reconcile_hides (f : Facade k) (interval : Duration) (now : Instant) :
    HidesConflicts (f.reconcile interval now) := by
  refine f.reconcile_cases interval now (.throw rfl)
    (fun ns _ => f.proceed_hides interval now ns) fun a _ => ?_
  refine .bind (gate_hides a) fun verdict => ?_
  cases verdict with
  | ok name => exact f.proceed_hides interval now a.ns name
  | error o =>
    refine .bind (f.recordCondition_hides _) fun _ => .lift ?_
    rintro e he
    cases o <;> cases he
    rfl

end Facade

theorem Policy.announce_hides (now : Instant) (ns winner : String) (policies : List Policy) :
    HidesConflicts (Policy.announce now ns winner policies) := by
  induction policies with
  | nil => exact .pure
  | cons p rest ih =>
    have hrest (settled : Bool) : HidesConflicts
        (if settled then Policy.announce now ns winner rest else return false) := .ite ih .pure
    have hwrite (s : PolicyStatus) : HidesConflicts (Policy.writeStatus ns p s) := by
      refine .handled fun e => ?_
      cases he : e.isConflict with
      | true => exact .pure
      | false => exact .ite .pure (.ite .pure (.throw he))
    unfold Policy.announce
    split
    exact .ite (.bind (hwrite _) hrest) (.bind .pure hrest)

theorem Policy.reconcile_hides (p : Policy) (interval : Duration) (now : Instant) :
    HidesConflicts (Policy.reconcile interval now p) := by
  cases hns : p.metadata.ns with
  | none =>
    unfold Policy.reconcile
    simp only [hns]
    exact .throw rfl
  | some ns =>
    rw [ControlPlane.reconcile_eq hns]
    refine .bind (.lookup trivial) fun policies => ?_
    unfold arbitrate
    cases governing? (Policy.sort policies) with
    | none => exact .pure
    | some winner =>
      exact .bind (announce_hides now ns _ _) fun _ => .ite (.bind .memory fun _ => .pure) .pure

theorem Controller.addReaders_hides (ns : String) (inventories : List Inventory) (x : SubjectSet) :
    HidesConflicts (addReaders ns inventories x) := by
  induction inventories generalizing x with
  | nil => exact .pure
  | cons i rest ih => exact .bind (.lookup trivial) fun _ => ih _

theorem Controller.grants_hides (ns : String) : HidesConflicts (grants ns) := by
  have hviewers (inventories : List Inventory) :
      HidesConflicts (tenantViewers ns inventories) := by
    refine .bind (.bind (.lookup trivial) fun _ => .bind (.lookup trivial) fun _ => .pure)
      fun _ => .bind (.bind (.lookup trivial) fun _ => addReaders_hides ns inventories _)
      fun _ => .bind (.lookup trivial) fun _ => .pure
  refine .bind (.lookup trivial) fun inventories => .bind (.lookup trivial) fun tenants => ?_
  exact .ite (.bind .pure fun _ => .pure) (.bind (hviewers inventories) fun _ => .pure)

theorem Controller.establishAll_hides (grants : List Grant) :
    HidesConflicts (establishAll grants) := by
  induction grants with
  | nil => exact .pure
  | cons g rest ih =>
    have hfirst : HidesConflicts (establish g) :=
      .bind (.lift fun _ => ViewedObject.isConflict_of_role) fun _ =>
        .bind (.lift fun _ => ViewedObject.isConflict_of_binding) fun _ =>
        .bind .unlessConflict fun _ => .pure
    exact .bind hfirst fun _ => .bind ih fun _ => .pure

theorem Namespace.reconcile_hides (n : Namespace) (interval : Duration) :
    HidesConflicts (n.reconcile interval) := by
  by_cases hn : n.metadata.deletionTimestamp = none
  case neg =>
    rw [reconcile_of_terminating hn]
    exact .pure
  rw [reconcile_eq_settle hn]
  exact .bind (grants_hides _) fun gs => .bind (establishAll_hides _) fun _ =>
    .ite (.bind .memory fun _ => .pure) .pure

theorem ControllerId.reconcile_hides {interval : Duration} {now : Instant} {j : Json}
    {id : ControllerId} {x : Controller Action} (hx : id.reconcile interval now j = .ok x) :
    HidesConflicts x := by
  cases id with
  | facade k =>
    obtain ⟨f, -, hf⟩ := Except.bind_eq_ok.1 hx
    cases hf
    exact f.reconcile_hides interval now
  | policy =>
    obtain ⟨p, -, hp⟩ := Except.bind_eq_ok.1 hx
    cases hp
    exact p.reconcile_hides interval now
  | grants =>
    obtain ⟨n, -, hn⟩ := Except.bind_eq_ok.1 hx
    cases hn
    exact n.reconcile_hides interval

end ControlPlane
