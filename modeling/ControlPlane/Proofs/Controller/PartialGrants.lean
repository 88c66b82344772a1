import ControlPlane.Proofs.Controller.Convergence
import ControlPlane.Proofs.Controller.Failures
import Mathlib.Logic.Relation

/-!
# Grants that are cut short

Any call of the grants controller may fail. Asking which grants there should be comes before all
writes, so that a failure there ends the run with nothing written. Each artifact is settled by one
write, or a binding by a deletion and a creation, and what a run can leave behind is told write by
write: nothing else is found than what was there, what should be there, or no binding where one of
another role had to go first. The next run without a failure brings about all grants.
-/

namespace ControlPlane

variable {σ : Type} {answer : (c : Step) → σ → c.Reply × σ} {view : σ → System} {s s' : σ}
  {t t' : List Event}

namespace ViewedObject

variable {v : ViewedObject} {subjects : SubjectSet}

/-- What has become of the role of the object: it is as before, it was created, or it was given its
rules and is otherwise as before, but for its version. -/
inductive RoleOutcome (v : ViewedObject) : Option Json → Option Json → Prop
  | kept (j : Option Json) : RoleOutcome v j j
  | created {role : Role} (h : v.role = .ok role) (version : String) :
    RoleOutcome v none
      (some (((Role.codec v.scope.breadth).encode role).withResourceVersion version))
  | patched (j : Json) (version : String) :
    RoleOutcome v (some j)
      (some ((j.withMember "rules" (AccessRule.codec.list.encode v.rules)).withResourceVersion
        version))

/-- The object reads as a binding that gives this role. -/
def Binds (v : ViewedObject) (role : RoleRef) (j : Json) : Prop :=
  ∃ b, (RoleBinding.codec v.scope.breadth).read j = .ok b ∧ b.roleRef = role

/-- What has become of the binding of the object in the course of `t`: it is as before; it was
created where there was none, or one of another role; it was given its subjects and is otherwise as
before, but for its version; or it gave another role and is gone, as its creation has failed. -/
inductive BindingOutcome (v : ViewedObject) (subjects : SubjectSet) (t : List Event) :
    Option Json → Option Json → Prop
  | kept (j : Option Json) : BindingOutcome v subjects t j j
  | created {j : Option Json} (hj : ∀ i, j = some i → ∃ role, role ≠ v.roleRef ∧ v.Binds role i)
    {binding : RoleBinding} (h : v.binding subjects = .ok binding) (version : String) :
    BindingOutcome v subjects t j
      (some (((RoleBinding.codec v.scope.breadth).encode binding).withResourceVersion version))
  | patched {j : Json} (hj : v.Binds v.roleRef j) (version : String) :
    BindingOutcome v subjects t (some j)
      (some ((j.withMember "subjects"
        (BindingSubject.codec.list.encode subjects.toBindings)).withResourceVersion version))
  | removed {j : Json} {role : RoleRef} (hrole : role ≠ v.roleRef) (hj : v.Binds role j)
    {binding : RoleBinding} (h : v.binding subjects = .ok binding) {e : Error}
    (he : ⟨.api (.createBinding v.scope binding), .error e⟩ ∈ t) :
    BindingOutcome v subjects t (some j) none

theorem BindingOutcome.mono {j j' : Option Json} (h : v.BindingOutcome subjects t j j')
    (ht : t ⊆ t') : v.BindingOutcome subjects t' j j' := by
  cases h with
  | kept => exact .kept _
  | created hj h version => exact .created hj h version
  | patched hj version => exact .patched hj version
  | removed hrole hj h he => exact .removed hrole hj h (ht he)

/-- Nothing but the role of the object has changed, and that as it should. -/
structure SettlesRole (v : ViewedObject) (s s' : Cluster) : Prop where
  changes : Cluster.Changes (· = Cluster.role v.scope v.roleName) s s'
  outcome : v.RoleOutcome (s.find? (Cluster.role v.scope v.roleName))
    (s'.find? (Cluster.role v.scope v.roleName))

theorem SettlesRole.refl (v : ViewedObject) (s : Cluster) : v.SettlesRole s s :=
  ⟨.refl _ s, .kept _⟩

/-- Nothing but the binding of the object has changed, and that as it should. -/
structure SettlesBinding (v : ViewedObject) (subjects : SubjectSet) (t : List Event)
    (s s' : Cluster) : Prop where
  changes : Cluster.Changes (· = Cluster.binding v.scope v.roleName) s s'
  outcome : v.BindingOutcome subjects t (s.find? (Cluster.binding v.scope v.roleName))
    (s'.find? (Cluster.binding v.scope v.roleName))

theorem SettlesBinding.refl (v : ViewedObject) (subjects : SubjectSet) (t : List Event)
    (s : Cluster) : v.SettlesBinding subjects t s s :=
  ⟨.refl _ s, .kept _⟩

end ViewedObject

/-- What has become of the artifacts of the grant in the course of `t`. -/
structure Grant.Outcome (g : Grant) (t : List Event) (s s' : Cluster) : Prop where
  role : g.viewed.RoleOutcome (s.find? (Cluster.role g.viewed.scope g.viewed.roleName))
    (s'.find? (Cluster.role g.viewed.scope g.viewed.roleName))
  binding : g.viewed.BindingOutcome g.subjects t
    (s.find? (Cluster.binding g.viewed.scope g.viewed.roleName))
    (s'.find? (Cluster.binding g.viewed.scope g.viewed.roleName))

namespace Grant.Outcome

variable {g : Grant} {s s' s'' : Cluster} {T : Target → Prop}

theorem refl (g : Grant) (t : List Event) (s : Cluster) : g.Outcome t s s := ⟨.kept _, .kept _⟩

theorem mono (h : g.Outcome t s s') (ht : t ⊆ t') : g.Outcome t' s s' :=
  ⟨h.role, h.binding.mono ht⟩

/-- What happens elsewhere afterwards leaves the artifacts as they are. -/
theorem followed (h : g.Outcome t s s') (hs : Cluster.Changes T s' s'')
    (hT : ∀ target, g.viewed.Owns target → ¬ T target) : g.Outcome t s s'' := by
  obtain ⟨hrole, hbinding⟩ := h
  refine ⟨?_, ?_⟩
  · rwa [hs.find _ (Cluster.role_isAccess _ _) (hT _ (.inl rfl))]
  · rwa [hs.find _ (Cluster.binding_isAccess _ _) (hT _ (.inr rfl))]

/-- What happens elsewhere before leaves the artifacts as they are. -/
theorem preceded (h : g.Outcome t s' s'') (hs : Cluster.Changes T s s')
    (hT : ∀ target, g.viewed.Owns target → ¬ T target) : g.Outcome t s s'' := by
  obtain ⟨hrole, hbinding⟩ := h
  refine ⟨?_, ?_⟩
  · rwa [← hs.find _ (Cluster.role_isAccess _ _) (hT _ (.inl rfl))]
  · rwa [← hs.find _ (Cluster.binding_isAccess _ _) (hT _ (.inr rfl))]

end Grant.Outcome

namespace Controller

variable {v : ViewedObject} {subjects : SubjectSet} {role : Role} {binding : RoleBinding}

/-! ## What a run leaves behind -/

theorem settles_settleRole (hf : Fallible answer view) (hs : (view s).cluster.Orderly)
    (hplaced : v.Placed) (hrole : v.role = .ok role) {found : Option Role}
    (hfound : ((view s).cluster.answer (.getRole v.scope v.roleName)).1 = .ok found)
    {r : Except Error Bool} (h : Runs answer (v.settleRole role found) s t r s') :
    v.SettlesRole (view s).cluster (view s').cluster := by
  cases found with
  | none =>
    obtain ⟨r, hwrite⟩ := h.bind_pure_inv
    obtain ⟨owner, -, rfl⟩ := ViewedObject.role_eq_ok.1 hrole
    obtain ⟨s₁, _, hcreate, hchanges, -, -, hfind⟩ := Cluster.exists_createRole
      (r := ⟨artifactMetadata v.artifactNs v.roleName owner, some v.rules⟩)
      (ViewedObject.artifactMetadata_valid _ _ owner) hplaced hfound
    rcases hf.write_inv hcreate hwrite with ⟨e, -, -, hview⟩ | ⟨-, rfl⟩
    · exact hview ▸ .refl v _
    · refine ⟨hchanges, ?_⟩
      have hnone : (view s).cluster.find? (Cluster.role v.scope v.roleName) = none :=
        Cluster.get_eq_none.1 hfound
      have hfind' : (view s').cluster.find? (Cluster.role v.scope v.roleName) = _ := hfind
      rw [hnone, hfind']
      exact .created hrole _
  | some found =>
    simp only [ViewedObject.settleRole] at h
    split at h
    · obtain ⟨r, hwrite⟩ := h.bind_pure_inv
      obtain ⟨s₁, _, hpatch, hchanges, -, -, j, hold, hfind⟩ :=
        hs.exists_patchRules hfound v.rules
      rcases hf.write_inv hpatch hwrite with ⟨e, -, -, hview⟩ | ⟨-, rfl⟩
      · exact hview ▸ .refl v _
      · refine ⟨hchanges, ?_⟩
        rw [hold, hfind]
        exact .patched j _
    · obtain ⟨-, -, rfl⟩ := h.unique .pure
      exact .refl v _

theorem settles_convergeRole (hf : Fallible answer view) (hs : (view s).cluster.Orderly)
    (hplaced : v.Placed) (hrole : v.role = .ok role) {r : Except Error Bool}
    (h : Runs answer (convergeRole v.scope role) s t r s') :
    v.SettlesRole (view s).cluster (view s').cluster := by
  rw [convergeRole_eq hrole] at h
  rcases h.bind_inv with ⟨e, hget, -⟩ | ⟨found, t₁, s₁, t₂, hget, h, -⟩
  · rw [(hf.lookup_inv (c := .getRole v.scope v.roleName) trivial hget).1]
    exact .refl v _
  · obtain ⟨hview, hfound⟩ := hf.lookup_inv (c := .getRole v.scope v.roleName) trivial hget
    have hfound := hfound found rfl
    rw [← hview] at hs hfound ⊢
    exact settles_settleRole hf hs hplaced hrole hfound h

/-- Where there is no binding, or where one of another role was deleted, one is created or the
creation fails. -/
theorem settles_createBinding (hf : Fallible answer view) (hplaced : v.Placed)
    (hbinding : v.binding subjects = .ok binding)
    (hnone : ((view s).cluster.answer (.getBinding v.scope v.roleName)).1 = .ok none)
    {r : Except Error Unit} (h : Runs answer (api (.createBinding v.scope binding)) s t r s') :
    ((∃ e, ⟨.api (.createBinding v.scope binding), .error e⟩ ∈ t) ∧ view s' = view s) ∨
      Cluster.Changes (· = Cluster.binding v.scope v.roleName) (view s).cluster
        (view s').cluster ∧
      ∃ version, (view s').cluster.find? (Cluster.binding v.scope v.roleName) =
        some (((RoleBinding.codec v.scope.breadth).encode binding).withResourceVersion version) := by
  obtain ⟨owner, -, rfl⟩ := ViewedObject.binding_eq_ok.1 hbinding
  obtain ⟨s₁, _, hcreate, hchanges, -, -, -, hfind⟩ := Cluster.exists_createBinding
    (b := ⟨artifactMetadata v.artifactNs v.roleName owner, v.roleRef, some subjects.toBindings⟩)
    (ViewedObject.artifactMetadata_valid _ _ owner) hplaced hnone
  rcases hf.write_inv hcreate h with ⟨e, -, rfl, hview⟩ | ⟨-, rfl⟩
  · exact .inl ⟨⟨e, List.mem_singleton_self _⟩, hview⟩
  · exact .inr ⟨hchanges, _, hfind⟩

theorem settles_settleBinding (hf : Fallible answer view) (hs : (view s).cluster.Orderly)
    (hplaced : v.Placed) (hbinding : v.binding subjects = .ok binding)
    {found : Option RoleBinding}
    (hfound : ((view s).cluster.answer (.getBinding v.scope v.roleName)).1 = .ok found)
    {r : Except Error Unit} (h : Runs answer (v.settleBinding subjects binding found) s t r s') :
    v.SettlesBinding subjects t (view s).cluster (view s').cluster := by
  cases found with
  | none =>
    have hnone : (view s).cluster.find? (Cluster.binding v.scope v.roleName) = none :=
      Cluster.get_eq_none.1 hfound
    rcases settles_createBinding hf hplaced hbinding hfound h with ⟨-, hview⟩ | ⟨hchanges, _, hfind⟩
    · exact hview ▸ .refl v subjects t _
    · refine ⟨hchanges, ?_⟩
      rw [hnone, hfind]
      refine .created ?_ hbinding _
      intro i hi
      cases hi
  | some found =>
    obtain ⟨j, hj, hread⟩ := Cluster.get_eq_some.1 hfound
    have hj : (view s).cluster.find? (Cluster.binding v.scope v.roleName) = some j := hj
    simp only [ViewedObject.settleBinding] at h
    split at h
    · next hrole =>
      have hother : v.Binds found.roleRef j := ⟨found, hread, rfl⟩
      obtain ⟨s₁, hdelete, hremoved, hnone⟩ := hs.deleteBinding v.scope v.roleName
      rcases h.bind_inv with ⟨e, hfirst, -⟩ | ⟨_, t₁, s₂, t₂, hfirst, hcreate, rfl⟩
      · rcases hf.write_inv hdelete hfirst with ⟨e, -, -, hview⟩ | ⟨hr, -⟩
        · exact hview ▸ .refl v subjects t _
        · cases hr
      · rcases hf.write_inv hdelete hfirst with ⟨e, hr, -⟩ | ⟨-, rfl⟩
        · cases hr
        rcases settles_createBinding hf hplaced hbinding hnone hcreate with
          ⟨⟨e, he⟩, hview⟩ | ⟨hchanges, _, hfind⟩
        · rw [hview]
          refine ⟨hremoved, ?_⟩
          rw [hj, Cluster.get_eq_none.1 hnone]
          exact .removed hrole hother hbinding (List.mem_append_right t₁ he)
        · refine ⟨hremoved.trans hchanges, ?_⟩
          rw [hj, hfind]
          exact .created (fun i hi => ⟨_, hrole, Option.some.inj hi ▸ hother⟩) hbinding _
    · next hrole =>
      split at h
      · obtain ⟨s₁, _, hpatch, hchanges, -, -, -, i, hold, hfind⟩ :=
          hs.exists_patchSubjects hfound subjects.toBindings
        rcases hf.write_inv hpatch h with ⟨e, -, -, hview⟩ | ⟨-, rfl⟩
        · exact hview ▸ .refl v subjects t _
        · refine ⟨hchanges, ?_⟩
          obtain rfl : j = i := Option.some.inj (hj.symm.trans hold)
          rw [hj, hfind]
          exact .patched ⟨found, hread, Decidable.not_not.1 hrole⟩ _
      · obtain ⟨-, -, rfl⟩ := h.unique .pure
        exact .refl v subjects t _

theorem settles_convergeBinding (hf : Fallible answer view) (hs : (view s).cluster.Orderly)
    (hplaced : v.Placed) (hbinding : v.binding subjects = .ok binding) {r : Except Error Unit}
    (h : Runs answer (convergeBinding v.scope binding) s t r s') :
    v.SettlesBinding subjects t (view s).cluster (view s').cluster := by
  rw [convergeBinding_eq hbinding] at h
  rcases h.bind_inv with ⟨e, hget, -⟩ | ⟨found, t₁, s₁, t₂, hget, hrest, rfl⟩
  · rw [(hf.lookup_inv (c := .getBinding v.scope v.roleName) trivial hget).1]
    exact .refl v subjects t _
  · obtain ⟨hview, hfound⟩ := hf.lookup_inv (c := .getBinding v.scope v.roleName) trivial hget
    have hfound := hfound found rfl
    rw [← hview] at hs hfound ⊢
    obtain ⟨hchanges, houtcome⟩ := settles_settleBinding hf hs hplaced hbinding hfound hrest
    exact ⟨hchanges, houtcome.mono (List.subset_append_right t₁ t₂)⟩

/-- Nothing but the artifacts of the grant has changed, and these as they should. -/
structure SettlesGrant (g : Grant) (t : List Event) (s s' : Cluster) : Prop where
  changes : Cluster.Changes g.viewed.Owns s s'
  outcome : g.Outcome t s s'

theorem SettlesGrant.refl (g : Grant) (t : List Event) (s : Cluster) : SettlesGrant g t s s :=
  ⟨.refl _ s, .refl g t s⟩

theorem settles_converge {g : Grant} (hf : Fallible answer view) (hs : (view s).cluster.Orderly)
    (hplaced : g.viewed.Placed) (hrole : g.viewed.role = .ok role)
    (hbinding : g.viewed.binding g.subjects = .ok binding) {r : Except Error Unit}
    (h : Runs answer (converge g.viewed.scope role binding) s t r s') :
    SettlesGrant g t (view s).cluster (view s').cluster := by
  have honly {t : List Event} {s₁ : σ}
      (h : g.viewed.SettlesRole (view s).cluster (view s₁).cluster) :
      SettlesGrant g t (view s).cluster (view s₁).cluster := by
    refine ⟨h.changes.mono fun _ => .inl, h.outcome, ?_⟩
    rw [h.changes.find _ (Cluster.binding_isAccess _ _)
      (ViewedObject.role_ne_binding _ _).symm]
    exact .kept _
  rcases h.bind_inv with ⟨e, hfirst, -⟩ | ⟨b, t₁, s₁, t₂, hfirst, hrest, rfl⟩
  · exact honly (settles_convergeRole hf hs hplaced hrole hfirst)
  have hsettles := settles_convergeRole hf hs hplaced hrole hfirst
  split at hrest
  · obtain ⟨hchanges, houtcome⟩ :=
      settles_convergeBinding hf (hsettles.changes.orderly hs) hplaced hbinding hrest
    refine ⟨(hsettles.changes.mono fun _ => .inl).trans (hchanges.mono fun _ => .inr), ?_, ?_⟩
    · rw [hchanges.find _ (Cluster.role_isAccess _ _) (ViewedObject.role_ne_binding _ _)]
      exact hsettles.outcome
    · rw [← hsettles.changes.find _ (Cluster.binding_isAccess _ _)
        (ViewedObject.role_ne_binding _ _).symm]
      exact houtcome.mono (List.subset_append_right t₁ t₂)
  · obtain ⟨-, -, rfl⟩ := hrest.unique .pure
    exact honly hsettles

theorem settles_establish {g : Grant} (hf : Fallible answer view)
    (hs : (view s).cluster.Orderly) (hplaced : g.viewed.Placed) {r : Except Error Bool}
    (h : Runs answer (establish g) s t r s') :
    SettlesGrant g t (view s).cluster (view s').cluster := by
  rw [establish_eq] at h
  rcases h.bind_inv with ⟨e, hfirst, -⟩ | ⟨role, t₁, s₁, t₂, hfirst, hrest, rfl⟩
  · obtain ⟨-, -, rfl⟩ := hfirst.unique (.lift _)
    exact .refl g t _
  obtain ⟨rfl, hrole, rfl⟩ := hfirst.unique (.lift _)
  rcases hrest.bind_inv with ⟨e, hfirst, -⟩ | ⟨binding, t₁, s₁, t₂, hfirst, hwrite, rfl⟩
  · obtain ⟨-, -, rfl⟩ := hfirst.unique (.lift _)
    exact .refl g _ _
  obtain ⟨rfl, hbinding, rfl⟩ := hfirst.unique (.lift _)
  obtain ⟨_, hwrite⟩ := hwrite.bind_pure_inv
  obtain ⟨_, hwrite⟩ := hwrite.unlessConflict_inv
  exact settles_converge hf hs hplaced hrole.symm hbinding.symm hwrite

/-- However far a run through the grants comes, each artifact is left as it was or as it should be,
and nothing else is changed. -/
theorem settles_establishAll {grants : List Grant} (hf : Fallible answer view)
    (hs : (view s).cluster.Orderly) (hplaced : ∀ g ∈ grants, g.viewed.Placed)
    (hdistinct : (grants.map fun g => (g.viewed.scope, g.viewed.roleName)).Nodup)
    {r : Except Error Bool} (h : Runs answer (establishAll grants) s t r s') :
    Cluster.Changes (fun target => ∃ g ∈ grants, g.viewed.Owns target) (view s).cluster
        (view s').cluster ∧
      ∀ g ∈ grants, g.Outcome t (view s).cluster (view s').cluster := by
  induction grants generalizing s t r with
  | nil =>
    obtain ⟨-, -, rfl⟩ := h.unique .pure
    exact ⟨.refl _ _, by simp⟩
  | cons g rest ih =>
    obtain ⟨hg, hrest⟩ := List.forall_mem_cons.1 hplaced
    obtain ⟨hnew, hdistinct⟩ := List.nodup_cons.1 hdistinct
    have hothers : ∀ g' ∈ rest, ∀ target, g'.viewed.Owns target → ¬ g.viewed.Owns target :=
      fun g' hg' target h' h => hnew (List.mem_map.2 ⟨g', hg', h'.same h⟩)
    have hfirst_mem {target : Target} (h : g.viewed.Owns target) :
        ∃ g' ∈ g :: rest, g'.viewed.Owns target := ⟨g, List.mem_cons_self, h⟩
    rcases h.bind_inv with ⟨e, hfirst, -⟩ | ⟨b, t₁, s₁, t₂, hfirst, hrun, rfl⟩
    · obtain ⟨hchanges, houtcome⟩ := settles_establish hf hs hg hfirst
      refine ⟨hchanges.mono fun _ => hfirst_mem, List.forall_mem_cons.2 ⟨houtcome, ?_⟩⟩
      intro g' hg'
      exact (Grant.Outcome.refl g' t _).followed hchanges (hothers g' hg')
    · obtain ⟨hchanges, houtcome⟩ := settles_establish hf hs hg hfirst
      obtain ⟨_, hrun⟩ := hrun.bind_pure_inv
      obtain ⟨hchanges', houtcomes⟩ := ih (hchanges.orderly hs) hrest hdistinct hrun
      refine ⟨(hchanges.mono fun _ => hfirst_mem).trans (hchanges'.mono ?_),
        List.forall_mem_cons.2 ⟨?_, ?_⟩⟩
      · rintro target ⟨g', hg', htarget⟩
        exact ⟨g', List.mem_cons_of_mem _ hg', htarget⟩
      · refine (houtcome.mono (List.subset_append_left t₁ t₂)).followed hchanges' ?_
        rintro target htarget ⟨g', hg', htarget'⟩
        exact hothers g' hg' target htarget' htarget
      · intro g' hg'
        exact ((houtcomes g' hg').mono (List.subset_append_right t₁ t₂)).preceded hchanges
          (hothers g' hg')

/-! ## Failures before and after the grants are known -/

variable {ns : String}

theorem addReaders_propagates (ns : String) (inventories : List Inventory)
    (subjects : SubjectSet) : Propagates answer (addReaders ns inventories subjects) := by
  induction inventories generalizing subjects with
  | nil => exact .pure
  | cons i rest ih => exact .bind .api fun readers => ih (subjects.union readers)

theorem tenantViewers_propagates (ns : String) (inventories : List Inventory) :
    Propagates answer (tenantViewers ns inventories) := by
  refine .bind (.bind .api fun _ => .bind .api fun _ => .pure) fun _ => ?_
  exact .bind (.bind .api fun _ => addReaders_propagates _ _ _) fun _ => .bind .api fun _ => .pure

theorem grants_propagates (ns : String) : Propagates answer (grants ns) := by
  refine .bind .api fun inventories => .bind .api fun tenants => ?_
  refine .ite (.bind .pure fun _ => .pure) ?_
  exact .bind (tenantViewers_propagates ns inventories) fun _ => .pure

theorem converge_only (scope : Scope) (role : Role) (binding : RoleBinding) :
    Only (fun c => ¬ c.IsGrantQuestion ns) (converge scope role binding) := by
  have hrole : Only (fun c => ¬ c.IsGrantQuestion ns) (convergeRole scope role) := by
    simp only [convergeRole]
    split
    · exact .pure
    · refine .bind (.api id) fun found => ?_
      cases found with
      | none => exact .bind (.api id) fun _ => .pure
      | some r => exact .ite (.bind (.api id) fun _ => .pure) .pure
  have hbinding : Only (fun c => ¬ c.IsGrantQuestion ns) (convergeBinding scope binding) := by
    refine .bind (.api id) fun found => ?_
    cases found with
    | none => exact .api id
    | some b => exact .ite (.bind (.api id) fun _ => .api id) (.ite (.api id) .pure)
  exact .bind hrole fun _ => .ite hbinding .pure

theorem establishAll_only (grants : List Grant) :
    Only (fun c => ¬ c.IsGrantQuestion ns) (establishAll grants) := by
  induction grants with
  | nil => exact .pure
  | cons g rest ih =>
    refine .bind (.bind (.lift _) fun role => .bind (.lift _) fun binding => ?_) fun _ =>
      .bind ih fun _ => .pure
    exact .bind (.unlessConflict (converge_only _ role binding)) fun _ => .pure

theorem converge_propagates (hrole : v.role = .ok role)
    (hbinding : v.binding subjects = .ok binding) :
    Propagates answer (converge v.scope role binding) := by
  have hconvergeRole : Propagates answer (convergeRole v.scope role) := by
    rw [convergeRole_eq hrole]
    refine .bind .api fun found => ?_
    cases found with
    | none => exact .bind .api fun _ => .pure
    | some r => exact .ite (.bind .api fun _ => .pure) .pure
  have hconvergeBinding : Propagates answer (convergeBinding v.scope binding) := by
    rw [convergeBinding_eq hbinding]
    refine .bind .api fun found => ?_
    cases found with
    | none => exact .api
    | some b => exact .ite (.bind .api fun _ => .api) (.ite .api .pure)
  exact .bind hconvergeRole fun _ => .ite hconvergeBinding .pure

theorem establishAll_reliable {grants : List Grant} (h : ∀ g ∈ grants, g.viewed.Ownable) :
    Reliable answer (establishAll grants) := by
  induction grants with
  | nil => exact .pure
  | cons g rest ih =>
    obtain ⟨hg, hrest⟩ := List.forall_mem_cons.1 h
    obtain ⟨role, binding, hrole, hbinding⟩ := hg.exists_artifacts g.subjects
    have hwrite : Reliable answer (do
        let done ← unlessConflict (converge g.viewed.scope role binding)
        pure done.isSome) :=
      .bind (converge_propagates hrole hbinding).reliable.unlessConflict fun _ => .pure
    refine .bind ?_ fun _ => .bind (ih hrest) fun _ => .pure
    rw [establish_eq, hrole, hbinding]
    exact hwrite

end Controller

/-- The grant is one for a tenant that claims the namespace, or for an inventory in it. -/
def Grant.IsOf (g : Grant) (ns : String) (s : Cluster) : Prop :=
  (∃ tenants, (s.answer (.listTenants ns)).1 = .ok tenants ∧
    ∃ t ∈ tenants, g.viewed = t.viewed) ∨
  ∃ inventories, (s.answer (.listInventories ns)).1 = .ok inventories ∧
    ∃ i ∈ inventories, g.viewed = i.viewed ns

/-- The tenants that claim the namespace have names of their own, and so have the inventories
in it. -/
structure Cluster.NamesApart (ns : String) (s : Cluster) : Prop where
  tenants : ∀ tenants, (s.answer (.listTenants ns)).1 = .ok tenants →
    (tenants.map (·.metadata.anyName)).Nodup
  inventories : ∀ inventories, (s.answer (.listInventories ns)).1 = .ok inventories →
    (inventories.map (·.metadata.anyName)).Nodup

theorem Cluster.NamesApart.of_changes {ns : String} {s s' : Cluster} {T : Target → Prop}
    (h : s.NamesApart ns) (hs : Cluster.Changes T s s') : s'.NamesApart ns := by
  have hsame {c : Call} (hc : Step.IsGrantQuestion ns (.api c)) :
      (System.answer (.api c) { cluster := s }).1 = (System.answer (.api c) { cluster := s' }).1 :=
    (Controller.answer_of_changes hs hc).symm
  refine ⟨fun tenants htenants => h.tenants tenants ?_,
    fun inventories hinventories => h.inventories inventories ?_⟩
  · exact (hsame (c := .listTenants ns) rfl).trans htenants
  · exact (hsame (c := .listInventories ns) rfl).trans hinventories

namespace Namespace

open Controller

variable {n : Namespace} {interval : Duration} {r : Except Error Action}

theorem reconcile_of_terminating (hn : n.metadata.deletionTimestamp ≠ none)
    (interval : Duration) : n.reconcile interval = pure .awaitChange := by
  unfold reconcile
  cases h : n.metadata.deletionTimestamp with
  | none => exact absurd h hn
  | some time => rfl

/-- What is done when the grants are known. -/
def settle (interval : Duration) (n : Namespace) (gs : Grants) : Controller Action := do
  let settled ← establishAll (gs.tenants ++ gs.inventories)
  if settled then do
    Controller.memory (.forgetFailures .grants n.metadata.anyName)
    return .requeue interval
  else return .requeue conflictPause

theorem reconcile_eq_settle (hn : n.metadata.deletionTimestamp = none) (interval : Duration) :
    n.reconcile interval = (do
      let gs ← grants n.metadata.anyName
      settle interval n gs) :=
  reconcile_eq hn interval

theorem settle_only (gs : Grants) : Only (fun c => ¬ c.IsGrantQuestion n.metadata.anyName)
    (settle interval n gs) :=
  .bind (establishAll_only _) fun _ => .ite (.bind (.memory id) fun _ => .pure) .pure

theorem settle_reliable {gs : Grants}
    (h : ∀ g ∈ gs.tenants ++ gs.inventories, g.viewed.Ownable) :
    Reliable answer (settle interval n gs) :=
  .bind (establishAll_reliable h) fun _ => .ite (.bind .memory fun _ => .pure) .pure

/-- All but the writes for the grants changes nothing in the cluster. -/
theorem settle_inv (hf : Fallible answer view) {gs : Grants}
    (h : Runs answer (settle interval n gs) s t r s') :
    ∃ t₁ r₁ s₁, Runs answer (establishAll (gs.tenants ++ gs.inventories)) s t₁ r₁ s₁ ∧ t₁ ⊆ t ∧
      (view s').cluster = (view s₁).cluster := by
  rcases h.bind_inv with ⟨e, hwrite, -⟩ | ⟨settled, t₁, s₁, t₂, hwrite, hend, rfl⟩
  · exact ⟨_, _, _, hwrite, List.Subset.refl _, rfl⟩
  refine ⟨_, _, _, hwrite, List.subset_append_left _ _, ?_⟩
  split at hend
  · obtain ⟨_, hend, -⟩ := hend.memory_bind_inv
    obtain ⟨-, -, rfl⟩ := hend.unique .pure
    rw [(hf.memory _ _).state]
    rfl
  · obtain ⟨-, -, rfl⟩ := hend.unique .pure
    rfl

/-- A failure in asking which grants there should be ends a run before anything else is done. -/
theorem reconcile_fails_asking (hn : n.metadata.deletionTimestamp = none)
    (h : Runs answer (n.reconcile interval) s t r s') {c : Call} {e : Error}
    (hc : Step.IsGrantQuestion n.metadata.anyName (.api c)) (he : ⟨.api c, .error e⟩ ∈ t) :
    r = .error e ∧ ∀ event ∈ t, Step.IsGrantQuestion n.metadata.anyName event.1 := by
  have hpropagates : Propagates answer (grants n.metadata.anyName) := grants_propagates _
  rw [reconcile_eq_settle hn] at h
  rcases h.bind_inv with ⟨e', hask, rfl⟩ | ⟨gs, t₁, s₁, t₂, hask, hrest, rfl⟩
  · refine ⟨congrArg Except.error (Except.error.inj (hpropagates.fails _ _ _ _ hask c e he)), ?_⟩
    exact hask.trace ▸ Program.Only.forall_trace (grants_only _) s
  · rcases List.mem_append.1 he with he | he
    · cases hpropagates.fails _ _ _ _ hask c e he
    · rw [← hrest.trace] at he
      exact absurd hc (Program.Only.forall_trace (settle_only gs) s₁ _ he)

/-- A run changes nothing, or it knows all grants and settles some of them. -/
theorem settles_reconcile (hf : Fallible answer view) (hs : (view s).cluster.Orderly)
    (hnames : (view s).cluster.NamesApart n.metadata.anyName)
    (h : Runs answer (n.reconcile interval) s t r s') :
    (view s').cluster = (view s).cluster ∨
      ∃ gs t₁, Runs System.answer (grants n.metadata.anyName) (view s) t₁ (.ok gs) (view s) ∧
        (∀ g ∈ gs.tenants ++ gs.inventories, g.IsOf n.metadata.anyName (view s).cluster ∧
          g.Outcome t (view s).cluster (view s').cluster) ∧
        Cluster.Changes (fun target => ∃ g ∈ gs.tenants ++ gs.inventories, g.viewed.Owns target)
          (view s).cluster (view s').cluster := by
  by_cases hn : n.metadata.deletionTimestamp = none
  case neg =>
    rw [reconcile_of_terminating hn] at h
    obtain ⟨-, -, rfl⟩ := h.unique .pure
    exact .inl rfl
  rw [reconcile_eq_settle hn] at h
  rcases h.bind_inv with ⟨e, hask, -⟩ | ⟨gs, t₁, s₁, t₂, hask, hrest, rfl⟩
  · have hview := hf.view_run (grants_only _) (fun _ => isLookup_of_isGrantQuestion) hask
    exact .inl (congrArg _ hview)
  have hview := hf.view_run (grants_only _) (fun _ => isLookup_of_isGrantQuestion) hask
  have hknown := hf.runs_system hask ((grants_propagates _).succeeded hask)
  rw [hview] at hknown
  obtain ⟨inventories, tenants, viewers, hinventories, htenants, rfl⟩ := grants_inv hknown
  obtain ⟨t₃, r₂, s₂, hwrite, hsub, hcluster⟩ := settle_inv hf hrest
  rw [← hview] at hs
  obtain ⟨hchanges, houtcomes⟩ := settles_establishAll hf hs
    (fun g hg => placed_grantsFor hs (hview ▸ hinventories) hg)
    (nodup_roleNames (hnames.tenants _ htenants) (hnames.inventories _ hinventories)) hwrite
  rw [hview, ← hcluster] at hchanges houtcomes
  refine .inr ⟨_, t₁, hknown, fun g hg => ⟨?_, ?_⟩, hchanges⟩
  · rcases mem_grantsFor hg with ⟨t, ht, hviewed⟩ | ⟨i, hi, hviewed⟩
    · exact .inl ⟨tenants, htenants, t, ht, hviewed⟩
    · exact .inr ⟨inventories, hinventories, i, hi, hviewed⟩
  · exact (houtcomes g hg).mono
      (List.Subset.trans hsub (List.subset_append_right t₁ t₂))

/-- One run after another of the controller, for this namespace. -/
def Rerun (answer : (c : Step) → σ → c.Reply × σ) (interval : Duration) (n : Namespace)
    (s s' : σ) : Prop :=
  ∃ t r, Runs answer (n.reconcile interval) s t r s'

/-- What runs change has no part in which grants there should be. -/
theorem changes_of_reruns (hf : Fallible answer view) (hs : (view s).cluster.Orderly)
    (hnames : (view s).cluster.NamesApart n.metadata.anyName)
    (h : Relation.ReflTransGen (Rerun answer interval n) s s') :
    Cluster.Changes (fun _ => True) (view s).cluster (view s').cluster := by
  induction h with
  | refl => exact .refl _ _
  | tail _ hrun ih =>
    obtain ⟨t, r, hrun⟩ := hrun
    rcases settles_reconcile hf (ih.orderly hs) (hnames.of_changes ih) hrun with
      hcluster | ⟨gs, t₁, -, -, hchanges⟩
    · rwa [hcluster]
    · exact ih.trans (hchanges.mono fun _ _ => trivial)

/-- A run without a failure brings about all grants, if it comes to a result or these can be. -/
theorem established_of_succeeded (hf : Fallible answer view)
    (hn : n.metadata.deletionTimestamp = none) (hs : (view s).cluster.Orderly)
    (hnames : (view s).cluster.NamesApart n.metadata.anyName)
    (h : Runs answer (n.reconcile interval) s t r s') (ht : ∀ e ∈ t, Event.Succeeded e) :
    ∃ gs t₁, Runs System.answer (grants n.metadata.anyName) (view s) t₁ (.ok gs) (view s) ∧
      ((∃ a, r = .ok a) ∨ (∀ g ∈ gs.tenants ++ gs.inventories, g.viewed.Ownable) →
        r = .ok (.requeue interval) ∧ ∀ g ∈ gs.tenants ++ gs.inventories,
          g.viewed.HasRole (view s').cluster ∧
          g.viewed.HasBinding g.subjects (view s').cluster) := by
  have hsystem := hf.runs_system h ht
  have hparts := hsystem
  rw [reconcile_eq_settle hn] at hparts
  rcases hparts.bind_inv with ⟨e, hask, -⟩ | ⟨gs, t₁, s₁, t₂, hask, hrest, rfl⟩
  · obtain ⟨gs, hgs⟩ := (grants_propagates _).reliable _ _ _ _ hask ht
    cases hgs
  obtain ⟨rfl, -⟩ := (grants_only _).observes_of_alike
    (fun _ => isLookup_of_isGrantQuestion) (fun _ _ => rfl) hask
  refine ⟨gs, t₁, hask, fun hsound => ?_⟩
  obtain ⟨a, rfl⟩ : ∃ a, r = .ok a := by
    refine hsound.elim id fun hownable => ?_
    exact settle_reliable hownable _ _ _ _ hrest fun e he => ht e (List.mem_append_right t₁ he)
  obtain ⟨inventories, tenants, viewers, hinventories, htenants, rfl⟩ := grants_inv hask
  obtain ⟨viewers', _, _, hask', hestablished, -, rfl⟩ := established_of_runs hn hs htenants
    (hnames.tenants _ htenants) hinventories (hnames.inventories _ hinventories) hsystem
  obtain ⟨-, hsame, -⟩ := hask.unique hask'
  rw [Except.ok.inj hsame]
  exact ⟨rfl, fun g hg => ⟨(hestablished g hg).role, (hestablished g hg).binding⟩⟩

/-- If asking which grants there should be fails, a run fails with that error and has looked things
up only. However it fails, each role and each binding is left as it was, or it is one of a grant
and is left as it should be or missing for a creation that has failed. After any number of such
runs, one without a failure brings about all grants. -/
theorem reconcile_survives_failures (hf : Fallible answer view) (interval : Duration)
    (n : Namespace) (hs : (view s).cluster.Orderly)
    (hnames : (view s).cluster.NamesApart n.metadata.anyName)
    (hrun : Runs answer (n.reconcile interval) s t r s') :
    (∀ c e, Step.IsGrantQuestion n.metadata.anyName (.api c) → ⟨.api c, .error e⟩ ∈ t →
      r = .error e ∧ ∀ event ∈ t, Step.IsLookup event.1) ∧
    (∀ c, ¬ c.HoldsAccess → (view s').cluster.objects c = (view s).cluster.objects c) ∧
    (∀ target : Target, target.IsAccess →
      (view s').cluster.find? target = (view s).cluster.find? target ∨
      ∃ gs, exec System.answer (grants n.metadata.anyName) (view s) = (.ok gs, view s) ∧
        ∃ g ∈ gs.tenants ++ gs.inventories, g.IsOf n.metadata.anyName (view s).cluster ∧
          g.viewed.Owns target ∧ g.Outcome t (view s).cluster (view s').cluster) ∧
    (n.metadata.deletionTimestamp = none →
      ∀ s₁, Relation.ReflTransGen (Rerun answer interval n) s' s₁ →
      ∀ t r s₂, Runs answer (n.reconcile interval) s₁ t r s₂ → (∀ e ∈ t, Event.Succeeded e) →
      ∃ gs, exec System.answer (grants n.metadata.anyName) (view s) = (.ok gs, view s) ∧
        ((∃ a, r = .ok a) ∨ (∀ g ∈ gs.tenants ++ gs.inventories, g.viewed.Ownable) →
          r = .ok (.requeue interval) ∧ ∀ g ∈ gs.tenants ++ gs.inventories,
            g.viewed.HasRole (view s₂).cluster ∧
            g.viewed.HasBinding g.subjects (view s₂).cluster)) := by
  refine ⟨?_, ?_, ?_, ?_⟩
  · intro c e hc he
    by_cases hn : n.metadata.deletionTimestamp = none
    · obtain ⟨hr, hlookups⟩ := reconcile_fails_asking hn hrun hc he
      exact ⟨hr, fun event hevent => isLookup_of_isGrantQuestion (hlookups event hevent)⟩
    · rw [reconcile_of_terminating hn] at hrun
      obtain ⟨rfl, -, -⟩ := hrun.unique .pure
      cases he
  · exact (changes_of_reruns hf hs hnames (.single ⟨t, r, hrun⟩)).objects
  · intro target htarget
    rcases settles_reconcile hf hs hnames hrun with hcluster | ⟨gs, t₁, hask, hgrants, hchanges⟩
    · rw [hcluster]
      exact .inl rfl
    by_cases howned : ∃ g ∈ gs.tenants ++ gs.inventories, g.viewed.Owns target
    · obtain ⟨g, hg, howns⟩ := howned
      exact .inr ⟨gs, hask.exec, g, hg, (hgrants g hg).1, howns, (hgrants g hg).2⟩
    · exact .inl (hchanges.find target htarget howned)
  · intro hn s₁ hreruns t' r' s₂ hrun' ht'
    have hchanges := changes_of_reruns hf hs hnames (.head ⟨t, r, hrun⟩ hreruns)
    obtain ⟨gs, t₁, hask, hestablished⟩ := established_of_succeeded hf hn (hchanges.orderly hs)
      (hnames.of_changes hchanges) hrun' ht'
    obtain ⟨-, t₂, hask', -⟩ := (grants_only _).observes_of_alike
      (fun _ => isLookup_of_isGrantQuestion)
      (fun _ hc => (answer_of_changes hchanges hc).symm) hask
    exact ⟨gs, hask'.exec, hestablished⟩

/-- A binding of another role is deleted, and the creation of the right one fails. -/
theorem reconcile_survives_failures_between_writes :
    let inventory : Json := .object
      [("metadata", .object [("name", .string "orders"), ("namespace", .string "team"),
          ("uid", .string "u1")]),
        ("spec", .object [("credentialsRef", .object [("name", .string "key")]),
          ("providerRef", .object [("name", .string "bridge")])])]
    let binding : Json := .object
      [("metadata", .object [("name", .string "dbaas-inventory-orders-viewer"),
          ("namespace", .string "team"), ("resourceVersion", .string "8")]),
        ("roleRef", .object [("name", .string "cluster-admin")])]
    let s : Simulation :=
      { cluster :=
          { objects := fun
              | .facades .inventory => [inventory]
              | .bindings => [binding]
              | _ => [] }
        outages := [⟨"create_role_binding", .validation "" "", 1⟩] }
    let n : Namespace := ⟨{ name := some "team" }⟩
    let target := Cluster.binding (.namespaced "team") "dbaas-inventory-orders-viewer"
    ∃ t r s', Runs Simulation.answer (n.reconcile (.ofSeconds 60)) s t r s' ∧
      s'.cluster.find? target = none ∧
      ∃ g : Grant, g.IsOf "team" s.cluster ∧ g.viewed.Owns target ∧
        g.Outcome t s.cluster s'.cluster := by
  intro inventory binding s n target
  let orders : Inventory :=
    ⟨⟨{ name := some "orders", ns := some "team", uid := some "u1" },
      ⟨⟨"bridge"⟩, ⟨"key"⟩, none, ⟨none, none, none⟩⟩⟩, none⟩
  have hcanonical : ∀ j ∈ [inventory, binding], j.Canonical := by
    simp only [inventory, binding, List.forall_mem_cons, List.not_mem_nil, false_implies,
      implies_true, Json.Canonical, Json.CanonicalMembers, Dict.Sorted, and_true]
    decide
  have hs : s.system.cluster.Orderly := by
    refine ⟨fun c j hj => hcanonical j ?_, fun c hc => ?_⟩
    · simp only [s, Simulation.system] at hj
      split at hj <;> simp_all
    · simp only [s, Simulation.system]
      split <;> simp
  have htenants : (s.cluster.answer (.listTenants "team")).1 = .ok [] :=
    congrArg Except.ok List.mergeSort_nil
  have hinventories : (s.cluster.answer (.listInventories "team")).1 = .ok [orders] := rfl
  have hnames : s.system.cluster.NamesApart "team" := by
    refine ⟨fun tenants h => ?_, fun inventories h => ?_⟩
    · obtain rfl := Except.ok.inj (htenants.symm.trans h)
      exact List.nodup_nil
    · obtain rfl := Except.ok.inj (hinventories.symm.trans h)
      simp
  let gs := grantsFor "team" [orders] [] .empty
  let s₁ := (Simulation.answer (.api (.listTenants "team"))
    (Simulation.answer (.api (.listInventories "team")) s).2).2
  have hgrants : Runs Simulation.answer (grants "team") s _ (.ok gs) s₁ :=
    .bind (.api rfl) (.bind (.api (Prod.ext htenants rfl)) ⟨rfl, rfl⟩)
  have hestablish := Runs.refl Simulation.answer (establishAll (gs.tenants ++ gs.inventories)) s₁
  have hgone : (exec Simulation.answer (establishAll (gs.tenants ++ gs.inventories))
      s₁).2.cluster.find? target = none := by
    decide +kernel +zetaReduce
  obtain ⟨e, he⟩ : ∃ e, (exec Simulation.answer (establishAll (gs.tenants ++ gs.inventories))
      s₁).1 = .error e := by
    have hfails : (exec Simulation.answer (establishAll (gs.tenants ++ gs.inventories))
        s₁).1.toOption = none := by
      decide +kernel +zetaReduce
    cases h : (exec Simulation.answer (establishAll (gs.tenants ++ gs.inventories)) s₁).1 with
    | ok a => rw [h] at hfails; cases hfails
    | error e => exact ⟨e, rfl⟩
  rw [he] at hestablish
  generalize (exec Simulation.answer (establishAll (gs.tenants ++ gs.inventories)) s₁).2 = s'
    at hestablish hgone
  obtain ⟨t, hrun⟩ : ∃ t,
      Runs Simulation.answer (n.reconcile (.ofSeconds 60)) s t (.error e) s' := by
    rw [reconcile_eq_settle rfl]
    exact ⟨_, hgrants.bind hestablish.bind_error⟩
  obtain ⟨-, -, houtcomes, -⟩ :=
    reconcile_survives_failures Simulation.fallible (.ofSeconds 60) n hs hnames hrun
  rcases houtcomes target (Cluster.binding_isAccess _ _) with hsame | ⟨_, -, g, -, hg, howns, h⟩
  · cases hgone.symm.trans hsame
  · exact ⟨t, _, s', hrun, hgone, g, hg, howns, h⟩

end Namespace

end ControlPlane
