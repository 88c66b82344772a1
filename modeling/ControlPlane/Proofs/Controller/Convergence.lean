import ControlPlane.Proofs.Cluster.Access
import ControlPlane.Proofs.Controller.System
import ControlPlane.Proofs.Controller.Viewer
import ControlPlane.Proofs.Object

/-!
# Grants converge

When nobody else writes, a run of the grants controller meets no conflict, and brings about the role
and the binding of every tenant and inventory, whatever roles and bindings there were. As the names
of these are all different, no grant undoes another. A second run then finds nothing to write.
-/

namespace ControlPlane

/-! ## What a grant brings about -/

namespace ViewedObject

variable {v v' : ViewedObject} {subjects : SubjectSet} {s s' : Cluster}

/-- The role of the object is there with its rules and no others. -/
def HasRole (v : ViewedObject) (s : Cluster) : Prop :=
  ∃ role, (s.answer (.getRole v.scope v.roleName)).1 = .ok (some role) ∧ role.rules = some v.rules

/-- The binding of the object is there, and gives its role to just these subjects. -/
def HasBinding (v : ViewedObject) (subjects : SubjectSet) (s : Cluster) : Prop :=
  ∃ binding, (s.answer (.getBinding v.scope v.roleName)).1 = .ok (some binding) ∧
    binding.roleRef = v.roleRef ∧ binding.subjects.getD [] = subjects.toBindings

/-- The target is the role or the binding of the object. -/
def Owns (v : ViewedObject) (t : Target) : Prop :=
  t = Cluster.role v.scope v.roleName ∨ t = Cluster.binding v.scope v.roleName

/-- The artifacts are created where they are looked for. -/
def Placed (v : ViewedObject) : Prop := v.artifactNs = v.scope.ns?

/-- The object can own its artifacts. -/
def Ownable (v : ViewedObject) : Prop := ∃ owner, v.owner = .ok owner

theorem Ownable.exists_artifacts (h : v.Ownable) (subjects : SubjectSet) :
    ∃ role binding, v.role = .ok role ∧ v.binding subjects = .ok binding := by
  obtain ⟨owner, howner⟩ := h
  exact ⟨_, _, role_eq_ok.2 ⟨owner, howner, rfl⟩, binding_eq_ok.2 ⟨owner, howner, rfl⟩⟩

theorem artifactMetadata_valid (ns : Option String) (name : String) (owner : OwnerReference) :
    (artifactMetadata ns name owner).Valid := by
  refine ⟨nofun, nofun, nofun, ?_, nofun, nofun, nofun⟩
  intro d hd
  obtain rfl := Option.some.inj hd
  exact List.pairwise_singleton _ _

theorem scope_eq_of_ns {scope scope' : Scope} (h : scope.ns? = scope'.ns?) : scope = scope' := by
  cases scope <;> cases scope' <;> first
    | rfl
    | cases h; rfl
    | cases h

/-- Roles and bindings of one place are of objects with one scope and one role name. -/
theorem Owns.same {t : Target} (h : v.Owns t) (h' : v'.Owns t) :
    (v.scope, v.roleName) = (v'.scope, v'.roleName) := by
  have hplace (h : v.Owns t) : t.place = ⟨v.scope.ns?, v.roleName⟩ := by
    rcases h with rfl | rfl <;> rfl
  have hplace' : t.place = ⟨v'.scope.ns?, v'.roleName⟩ := by
    rcases h' with rfl | rfl <;> rfl
  obtain ⟨hns, hname⟩ := ObjectRef.mk.inj ((hplace h).symm.trans hplace')
  rw [scope_eq_of_ns hns, hname]

theorem HasRole.mono {T : Target → Prop} (h : v.HasRole s) (hs : Cluster.Changes T s s')
    (hT : ¬ T (Cluster.role v.scope v.roleName)) : v.HasRole s' := by
  obtain ⟨role, hget, hrules⟩ := h
  refine ⟨role, ?_, hrules⟩
  have hfind := hs.find _ (Cluster.role_isAccess v.scope v.roleName) hT
  simpa only [Cluster.answer, Cluster.get, hfind] using hget

theorem HasBinding.mono {T : Target → Prop} (h : v.HasBinding subjects s)
    (hs : Cluster.Changes T s s') (hT : ¬ T (Cluster.binding v.scope v.roleName)) :
    v.HasBinding subjects s' := by
  obtain ⟨binding, hget, hsame⟩ := h
  refine ⟨binding, ?_, hsame⟩
  have hfind := hs.find _ (Cluster.binding_isAccess v.scope v.roleName) hT
  simpa only [Cluster.answer, Cluster.get, hfind] using hget

theorem role_ne_binding (scope : Scope) (name : String) :
    Cluster.role scope name ≠ Cluster.binding scope name := by
  intro h
  have hcollection := congrArg Target.collection h
  cases scope <;> cases hcollection

end ViewedObject

/-- The role and the binding of the grant are there. -/
structure Grant.Established (g : Grant) (s : Cluster) : Prop where
  ownable : g.viewed.Ownable
  role : g.viewed.HasRole s
  binding : g.viewed.HasBinding g.subjects s

theorem Grant.Established.mono {g : Grant} {s s' : Cluster} {T : Target → Prop}
    (h : g.Established s) (hs : Cluster.Changes T s s') (hT : ∀ t, g.viewed.Owns t → ¬ T t) :
    g.Established s' where
  ownable := h.ownable
  role := h.role.mono hs (hT _ (.inl rfl))
  binding := h.binding.mono hs (hT _ (.inr rfl))

namespace Controller

variable {v : ViewedObject} {subjects : SubjectSet} {role : Role} {binding : RoleBinding}
  {s : System}

/-! ## The first run -/

theorem achieves_convergeRole (hs : s.cluster.Orderly) (hplaced : v.Placed)
    (hrole : v.role = .ok role) :
    Achieves (convergeRole v.scope role) s fun b s' =>
      b = true ∧ v.HasRole s'.cluster ∧
        Cluster.Changes (· = Cluster.role v.scope v.roleName) s.cluster s'.cluster := by
  rw [convergeRole_eq hrole]
  refine .bind (Q := fun found s' => s' = s ∧
    (s.cluster.answer (.getRole v.scope v.roleName)).1 = .ok found)
    (.lookup (c := .getRole v.scope v.roleName) trivial (fun a h => ⟨rfl, h⟩)
      fun e he => Cluster.isConflict_of_get he) ?_
  rintro found _ ⟨rfl, hfound⟩
  cases found with
  | none =>
    obtain ⟨owner, -, rfl⟩ := ViewedObject.role_eq_ok.1 hrole
    obtain ⟨s', role, hcreate, hchanges, hget, hrules, -⟩ := Cluster.exists_createRole
      (r := ⟨artifactMetadata v.artifactNs v.roleName owner, some v.rules⟩)
      (ViewedObject.artifactMetadata_valid _ _ owner) hplaced hfound
    refine .bind (Q := fun _ s'' => s''.cluster = s') (.api hcreate rfl) ?_
    rintro _ s'' rfl
    exact .pure ⟨rfl, ⟨role, hget, hrules⟩, hchanges⟩
  | some found =>
    refine .ite (fun _ => ?_) fun hsame => .pure ⟨rfl, ⟨found, hfound, ?_⟩, .refl _ _⟩
    · obtain ⟨s', role, hpatch, hchanges, hget, hrules, -⟩ := hs.exists_patchRules hfound v.rules
      refine .bind (Q := fun _ s'' => s''.cluster = s') (.api hpatch rfl) ?_
      rintro _ s'' rfl
      exact .pure ⟨rfl, ⟨role, hget, hrules⟩, hchanges⟩
    · exact ViewedObject.rules_eq_of_getD (Decidable.not_not.1 hsame)

theorem achieves_convergeBinding (hs : s.cluster.Orderly) (hplaced : v.Placed)
    (hbinding : v.binding subjects = .ok binding) :
    Achieves (convergeBinding v.scope binding) s fun _ s' =>
      v.HasBinding subjects s'.cluster ∧
        Cluster.Changes (· = Cluster.binding v.scope v.roleName) s.cluster s'.cluster := by
  rw [convergeBinding_eq hbinding]
  obtain ⟨owner, -, rfl⟩ := ViewedObject.binding_eq_ok.1 hbinding
  have hcreates {s : System}
      (hnone : (s.cluster.answer (.getBinding v.scope v.roleName)).1 = .ok none) :
      Achieves (api (.createBinding v.scope ⟨artifactMetadata v.artifactNs v.roleName owner,
        v.roleRef, some subjects.toBindings⟩)) s fun _ s' => v.HasBinding subjects s'.cluster ∧
          Cluster.Changes (· = Cluster.binding v.scope v.roleName) s.cluster s'.cluster := by
    obtain ⟨s', found, hcreate, hchanges, hget, href, hsubjects, -⟩ :=
      Cluster.exists_createBinding
      (b := ⟨artifactMetadata v.artifactNs v.roleName owner, v.roleRef, some subjects.toBindings⟩)
      (ViewedObject.artifactMetadata_valid _ _ owner) hplaced hnone
    exact .api hcreate ⟨⟨found, hget, href, by rw [hsubjects]; rfl⟩, hchanges⟩
  refine .bind (Q := fun found s' => s' = s ∧
    (s.cluster.answer (.getBinding v.scope v.roleName)).1 = .ok found)
    (.lookup (c := .getBinding v.scope v.roleName) trivial (fun a h => ⟨rfl, h⟩)
      fun e he => Cluster.isConflict_of_get he) ?_
  rintro found _ ⟨rfl, hfound⟩
  cases found with
  | none => exact hcreates hfound
  | some found =>
    refine .ite (fun _ => ?_) fun href => .ite (fun _ => ?_) fun hsame => .pure ?_
    · obtain ⟨s', hdelete, hremoved, hnone⟩ := hs.deleteBinding v.scope v.roleName
      refine .bind (Q := fun _ s'' => s''.cluster = s') (.api hdelete rfl) ?_
      rintro _ s'' rfl
      refine (hcreates hnone).mono ?_
      rintro _ s' ⟨hhas, hchanges⟩
      exact ⟨hhas, hremoved.trans hchanges⟩
    · obtain ⟨s', found', hpatch, hchanges, hget, href', hsubjects, -⟩ :=
        hs.exists_patchSubjects hfound subjects.toBindings
      refine .api hpatch ⟨⟨found', hget, href'.trans (Decidable.not_not.1 href), ?_⟩, hchanges⟩
      rw [hsubjects]
      rfl
    · exact ⟨⟨found, hfound, Decidable.not_not.1 href, Decidable.not_not.1 hsame⟩, .refl _ _⟩

theorem achieves_converge (hs : s.cluster.Orderly) (hplaced : v.Placed)
    (hrole : v.role = .ok role) (hbinding : v.binding subjects = .ok binding) :
    Achieves (converge v.scope role binding) s fun _ s' =>
      v.HasRole s'.cluster ∧ v.HasBinding subjects s'.cluster ∧
        Cluster.Changes v.Owns s.cluster s'.cluster := by
  refine .bind (achieves_convergeRole hs hplaced hrole) ?_
  rintro _ s₁ ⟨rfl, hhas, hchanges⟩
  refine (achieves_convergeBinding (hchanges.orderly hs) hplaced hbinding).mono ?_
  rintro _ s₂ ⟨hbound, hchanges'⟩
  refine ⟨hhas.mono hchanges' (ViewedObject.role_ne_binding _ _), hbound, ?_⟩
  exact (hchanges.mono fun t ht => .inl ht).trans (hchanges'.mono fun t ht => .inr ht)

theorem achieves_establish {g : Grant} (hs : s.cluster.Orderly) (hplaced : g.viewed.Placed) :
    Achieves (establish g) s fun b s' => b = true ∧ g.Established s'.cluster ∧
      Cluster.Changes g.viewed.Owns s.cluster s'.cluster := by
  rw [establish_eq]
  refine .bind (Q := fun role s' => g.viewed.role = .ok role ∧ s' = s)
    (.lift (fun _ h => ⟨h, rfl⟩) fun _ => ViewedObject.isConflict_of_role) ?_
  rintro role _ ⟨hrole, rfl⟩
  refine .bind (Q := fun binding s' => g.viewed.binding g.subjects = .ok binding ∧ s' = _)
    (.lift (fun _ h => ⟨h, rfl⟩) fun _ => ViewedObject.isConflict_of_binding) ?_
  rintro binding _ ⟨hbinding, rfl⟩
  refine .bind (achieves_converge hs hplaced hrole hbinding).unlessConflict ?_
  rintro _ s' ⟨_, rfl, hhas, hbound, hchanges⟩
  obtain ⟨owner, howner, -⟩ := ViewedObject.role_eq_ok.1 hrole
  exact .pure ⟨rfl, ⟨⟨owner, howner⟩, hhas, hbound⟩, hchanges⟩

/-- The grants are established one after the other, and none of them undoes another. -/
theorem achieves_establishAll {grants : List Grant} (hs : s.cluster.Orderly)
    (hplaced : ∀ g ∈ grants, g.viewed.Placed)
    (hdistinct : (grants.map fun g => (g.viewed.scope, g.viewed.roleName)).Nodup) :
    Achieves (establishAll grants) s fun b s' => b = true ∧
      (∀ g ∈ grants, g.Established s'.cluster) ∧
      Cluster.Changes (fun t => ∃ g ∈ grants, g.viewed.Owns t) s.cluster s'.cluster := by
  induction grants generalizing s with
  | nil => exact .pure ⟨rfl, by simp, .refl _ _⟩
  | cons g rest ih =>
    obtain ⟨hg, hrest⟩ := List.forall_mem_cons.1 hplaced
    obtain ⟨hnew, hdistinct⟩ := List.nodup_cons.1 hdistinct
    refine .bind (achieves_establish hs hg) ?_
    rintro _ s₁ ⟨rfl, hestablished, hchanges⟩
    refine .bind (ih (hchanges.orderly hs) hrest hdistinct) ?_
    rintro _ s₂ ⟨rfl, hothers, hchanges'⟩
    refine .pure ⟨rfl, List.forall_mem_cons.2 ⟨hestablished.mono hchanges' ?_, hothers⟩, ?_⟩
    · rintro t ht ⟨g', hg', ht'⟩
      exact hnew (List.mem_map.2 ⟨g', hg', (ht.same ht').symm⟩)
    · refine (hchanges.mono ?_).trans (hchanges'.mono ?_)
      · exact fun t ht => ⟨g, List.mem_cons_self, ht⟩
      · rintro t ⟨g', hg', ht⟩
        exact ⟨g', List.mem_cons_of_mem _ hg', ht⟩

/-! ## Which grants there should be -/

variable {ns : String} {gs : Grants} {s' : System} {t : List Event}

theorem isLookup_of_isGrantQuestion {c : Step} (h : c.IsGrantQuestion ns) : c.IsLookup := by
  unfold Step.IsGrantQuestion at h
  split at h <;> first
    | exact trivial
    | exact h.elim

/-- What grants there should be depends on neither roles nor bindings. -/
theorem answer_of_changes {T : Target → Prop} (hs : Cluster.Changes T s.cluster s'.cluster)
    {c : Step} (hc : c.IsGrantQuestion ns) : (System.answer c s').1 = (System.answer c s).1 := by
  unfold Step.IsGrantQuestion at hc
  split at hc
  · simp only [System.answer, Cluster.answer, Cluster.inNamespace,
      hs.objects (.facades .inventory) not_false]
  · simp only [System.answer, Cluster.answer, hs.objects .tenants not_false]
  · simp only [System.answer, Cluster.answer, hs.reviews]
  · exact hc.elim

/-- The grants for these objects, of which the tenants may be read by `viewers`. -/
def grantsFor (ns : String) (inventories : List Inventory) (tenants : List Tenant)
    (viewers : SubjectSet) : Grants where
  tenants := tenants.map fun t => ⟨t.viewed, viewers⟩
  inventories := inventories.map fun i => ⟨i.viewed ns, inventoryViewers tenants i⟩

variable {inventories : List Inventory} {tenants : List Tenant} {viewers : SubjectSet} {g : Grant}

theorem mem_grantsFor (hg : g ∈ (grantsFor ns inventories tenants viewers).tenants ++
      (grantsFor ns inventories tenants viewers).inventories) :
    (∃ t ∈ tenants, g.viewed = t.viewed) ∨ ∃ i ∈ inventories, g.viewed = i.viewed ns := by
  rcases List.mem_append.1 hg with hg | hg
  · obtain ⟨t, ht, rfl⟩ := List.mem_map.1 hg
    exact .inl ⟨t, ht, rfl⟩
  · obtain ⟨i, hi, rfl⟩ := List.mem_map.1 hg
    exact .inr ⟨i, hi, rfl⟩

/-- Before it asks anything else a run is told of the objects that the grants are for. -/
theorem grants_told {σ : Type} {answer : (c : Step) → σ → c.Reply × σ} {s s' : σ}
    (h : Runs answer (grants ns) s t (.ok gs) s') :
    ∃ inventories tenants viewers s₁ s₂ t', gs = grantsFor ns inventories tenants viewers ∧
      answer (.api (.listInventories ns)) s = (.ok inventories, s₁) ∧
      answer (.api (.listTenants ns)) s₁ = (.ok tenants, s₂) ∧
      t = ⟨.api (.listInventories ns), .ok inventories⟩ ::
        ⟨.api (.listTenants ns), .ok tenants⟩ :: t' := by
  rcases h.bind_inv with ⟨_, -, hr⟩ | ⟨inventories, t₁, s₁, t₂, hlist, hrest, rfl⟩
  · cases hr
  obtain ⟨hinventories, rfl⟩ := hlist.api_inv
  rcases hrest.bind_inv with ⟨_, -, hr⟩ | ⟨tenants, t₃, s₂, t₄, hclaim, hviewers, rfl⟩
  · cases hr
  obtain ⟨htenants, rfl⟩ := hclaim.api_inv
  -- Whether anybody is asked about or not, the grants are put together last.
  split at hviewers
  all_goals
    rcases hviewers.bind_inv with ⟨_, -, hr⟩ | ⟨viewers, t₅, s₃, t₆, -, hend, rfl⟩
    · cases hr
    · obtain ⟨rfl, hr, -⟩ := hend.unique .pure
      exact ⟨inventories, tenants, viewers, s₁, s₂, _, Except.ok.inj hr, hinventories, htenants, rfl⟩

/-- The objects that a run is told of are there. -/
theorem grants_inv (h : Runs System.answer (grants ns) s t (.ok gs) s') :
    ∃ inventories tenants viewers,
      (s.cluster.answer (.listInventories ns)).1 = .ok inventories ∧
      (s.cluster.answer (.listTenants ns)).1 = .ok tenants ∧
      gs = grantsFor ns inventories tenants viewers := by
  obtain ⟨inventories, tenants, viewers, s₁, s₂, t', hgs, hinventories, htenants, -⟩ := grants_told h
  obtain rfl : s = s₁ := congrArg Prod.snd hinventories
  exact ⟨inventories, tenants, viewers, congrArg Prod.fst hinventories,
    congrArg Prod.fst htenants, hgs⟩

/-- Tenants with names of their own, and inventories likewise, have viewer roles with names of their
own. -/
theorem nodup_roleNames (htenants : (tenants.map (·.metadata.anyName)).Nodup)
    (hinventories : (inventories.map (·.metadata.anyName)).Nodup) :
    (((grantsFor ns inventories tenants viewers).tenants ++
      (grantsFor ns inventories tenants viewers).inventories).map
        fun g => (g.viewed.scope, g.viewed.roleName)).Nodup := by
  simp only [grantsFor, List.map_append, List.map_map]
  refine List.nodup_append.2 ⟨?_, ?_, ?_⟩
  · refine List.pairwise_map.2 ((List.pairwise_map.1 htenants).imp ?_)
    exact fun hne heq => hne (tenantRoleName_inj (Prod.mk.inj heq).2)
  · refine List.pairwise_map.2 ((List.pairwise_map.1 hinventories).imp ?_)
    exact fun hne heq => hne (inventoryRoleName_inj (Prod.mk.inj heq).2)
  · intro x hx y hy heq
    obtain ⟨t, -, rfl⟩ := List.mem_map.1 hx
    obtain ⟨i, -, rfl⟩ := List.mem_map.1 hy
    cases (Prod.mk.inj heq).1

theorem placed_grantsFor (hs : s.cluster.Orderly)
    (hinventories : (s.cluster.answer (.listInventories ns)).1 = .ok inventories)
    (hg : g ∈ (grantsFor ns inventories tenants viewers).tenants ++
      (grantsFor ns inventories tenants viewers).inventories) : g.viewed.Placed := by
  unfold ViewedObject.Placed
  rcases mem_grantsFor hg with ⟨t, -, hviewed⟩ | ⟨i, hi, hviewed⟩
  · rw [hviewed]
    rfl
  · rw [hviewed]
    obtain ⟨j, hj, hread⟩ := (Except.mem_iff_of_mapM_eq_ok hinventories).1 hi
    obtain ⟨hmem, hns⟩ := List.mem_filter.1 hj
    have hread := Except.mapError_eq_ok.1 hread
    exact (Observed.of_stored (hs.canonical _ j hmem) (of_decide_eq_true hns) hread).2.2.1

/-! ## The second run -/

theorem observes_convergeRole (h : v.HasRole s.cluster) (hrole : v.role = .ok role) :
    Observes (convergeRole v.scope role) s (.ok true) := by
  obtain ⟨found, hget, hrules⟩ := h
  rw [convergeRole_eq hrole]
  refine .bind (.api (c := .getRole v.scope v.roleName) trivial hget) ?_
  have hdone : v.settleRole role (some found) = pure true := by
    simp [ViewedObject.settleRole, hrules]
  rw [hdone]
  exact .pure true s

theorem observes_convergeBinding (h : v.HasBinding subjects s.cluster)
    (hbinding : v.binding subjects = .ok binding) :
    Observes (convergeBinding v.scope binding) s (.ok ()) := by
  obtain ⟨found, hget, href, hsubjects⟩ := h
  rw [convergeBinding_eq hbinding]
  refine .bind (.api (c := .getBinding v.scope v.roleName) trivial hget) ?_
  have hdone : v.settleBinding subjects binding (some found) = pure () := by
    simp [ViewedObject.settleBinding, href, hsubjects]
  rw [hdone]
  exact .pure () s

theorem observes_establish {g : Grant} (h : g.Established s.cluster) :
    Observes (establish g) s (.ok true) := by
  obtain ⟨role, binding, hrole, hbinding⟩ := h.ownable.exists_artifacts g.subjects
  have hconverge : Observes (converge g.viewed.scope role binding) s (.ok ()) :=
    .bind (observes_convergeRole h.role hrole) (observes_convergeBinding h.binding hbinding)
  rw [establish_eq, hrole, hbinding]
  refine .bind (.lift (.ok _) s) (.bind (.lift (.ok _) s) ?_)
  exact .bind (Observes.tryCatch (hconverge.bind (f := fun a => pure (some a)) (.pure _ s)))
    (.pure true s)

theorem observes_establishAll {grants : List Grant} (h : ∀ g ∈ grants, g.Established s.cluster) :
    Observes (establishAll grants) s (.ok true) := by
  induction grants with
  | nil => exact .pure true s
  | cons g rest ih =>
    obtain ⟨hg, hrest⟩ := List.forall_mem_cons.1 h
    exact .bind (observes_establish hg) (.bind (ih hrest) (.pure true s))

end Controller

namespace Namespace

variable {n : Namespace} {interval : Duration} {s s' : System} {gs : Grants}

theorem reconcile_eq (hn : n.metadata.deletionTimestamp = none) (interval : Duration) :
    n.reconcile interval = (do
      let gs ← Controller.grants n.metadata.anyName
      let settled ← Controller.establishAll (gs.tenants ++ gs.inventories)
      if settled then do
        Controller.memory (.forgetFailures .grants n.metadata.anyName)
        pure (.requeue interval)
      else pure (.requeue Controller.conflictPause)) := by
  unfold reconcile
  rw [hn]
  rfl

/-- A run that ends well has established all grants that it found there should be, and changed
nothing but roles and bindings. -/
theorem established_of_runs (hn : n.metadata.deletionTimestamp = none) (hs : s.cluster.Orderly)
    {tenants : List Tenant}
    (htenants : (s.cluster.answer (.listTenants n.metadata.anyName)).1 = .ok tenants)
    (htenantNames : (tenants.map (·.metadata.anyName)).Nodup) {inventories : List Inventory}
    (hinventories : (s.cluster.answer (.listInventories n.metadata.anyName)).1 = .ok inventories)
    (hinventoryNames : (inventories.map (·.metadata.anyName)).Nodup) {t : List Event} {a : Action}
    (h : Controller.Runs System.answer (n.reconcile interval) s t (.ok a) s') :
    ∃ viewers t T, Controller.Runs System.answer (Controller.grants n.metadata.anyName) s t
        (.ok (Controller.grantsFor n.metadata.anyName inventories tenants viewers)) s ∧
      (∀ g ∈ (Controller.grantsFor n.metadata.anyName inventories tenants viewers).tenants ++
        (Controller.grantsFor n.metadata.anyName inventories tenants viewers).inventories,
        g.Established s'.cluster) ∧ Cluster.Changes T s.cluster s'.cluster ∧
      a = .requeue interval := by
  rw [reconcile_eq hn] at h
  rcases h.bind_inv with ⟨_, -, hr⟩ | ⟨gs, t, s₁, _, hgrants, h, -⟩
  · cases hr
  obtain ⟨rfl, -⟩ := (Controller.grants_only _).observes_of_alike
    (fun _ => Controller.isLookup_of_isGrantQuestion) (fun _ _ => rfl) hgrants
  obtain ⟨inventories', tenants', viewers, hinventories', htenants', rfl⟩ :=
    Controller.grants_inv hgrants
  obtain rfl := Except.ok.inj (hinventories.symm.trans hinventories')
  obtain rfl := Except.ok.inj (htenants.symm.trans htenants')
  rcases h.bind_inv with ⟨_, -, hr⟩ | ⟨settled, _, s₂, _, hestablish, h, -⟩
  · cases hr
  rcases Controller.achieves_establishAll hs
    (fun g hg => Controller.placed_grantsFor hs hinventories hg)
    (Controller.nodup_roleNames htenantNames hinventoryNames) _ _ _ hestablish with
    ⟨_, hr, rfl, hestablished, hchanges⟩ | ⟨_, hr, -⟩
  · obtain rfl := Except.ok.inj hr
    obtain ⟨_, hend, -⟩ := Controller.Runs.memory_bind_inv h
    obtain ⟨-, hr, rfl⟩ := hend.unique .pure
    exact ⟨viewers, t, _, hgrants, hestablished, hchanges, Except.ok.inj hr⟩
  · cases hr

/-- Where all grants are there nothing is written. -/
theorem quiet_reconcile (hn : n.metadata.deletionTimestamp = none)
    (hgrants : Controller.Observes (Controller.grants n.metadata.anyName) s (.ok gs))
    (h : ∀ g ∈ gs.tenants ++ gs.inventories, g.Established s.cluster) :
    Controller.Quiet (n.reconcile interval) s (.ok (.requeue interval)) := by
  rw [reconcile_eq hn]
  refine hgrants.bind_quiet ((Controller.observes_establishAll h).bind_quiet ?_)
  exact .memory (Controller.Observes.pure _ _).quiet

/-- A run that ends well has brought about every grant that it found there should be, and where
nothing changes afterwards another run has nothing to write. -/
theorem converges_of_runs (hn : n.metadata.deletionTimestamp = none) (hs : s.cluster.Orderly)
    {tenants : List Tenant}
    (htenants : (s.cluster.answer (.listTenants n.metadata.anyName)).1 = .ok tenants)
    (htenantNames : (tenants.map (·.metadata.anyName)).Nodup) {inventories : List Inventory}
    (hinventories : (s.cluster.answer (.listInventories n.metadata.anyName)).1 = .ok inventories)
    (hinventoryNames : (inventories.map (·.metadata.anyName)).Nodup) {t : List Event} {a : Action}
    (h : Controller.Runs System.answer (n.reconcile interval) s t (.ok a) s') :
    a = .requeue interval ∧ ∃ gs : Grants,
      Controller.exec System.answer (Controller.grants n.metadata.anyName) s = (.ok gs, s) ∧
      gs.tenants.map (·.viewed) = tenants.map (·.viewed) ∧
      gs.inventories.map (·.viewed) = inventories.map (·.viewed n.metadata.anyName) ∧
      (∀ g ∈ gs.tenants ++ gs.inventories,
        g.viewed.HasRole s'.cluster ∧ g.viewed.HasBinding g.subjects s'.cluster) ∧
      ∀ s₁, s₁.cluster = s'.cluster →
        Controller.Quiet (n.reconcile interval) s₁ (.ok (.requeue interval)) := by
  obtain ⟨viewers, t, T, hgrants, hestablished, hchanges, rfl⟩ := established_of_runs hn hs htenants
    htenantNames hinventories hinventoryNames h
  refine ⟨rfl, _, hgrants.exec, ?_, ?_, ?_, ?_⟩
  · simp only [Controller.grantsFor, List.map_map, Function.comp_def]
  · simp only [Controller.grantsFor, List.map_map, Function.comp_def]
  · exact fun g hg => ⟨(hestablished g hg).role, (hestablished g hg).binding⟩
  · intro s₁ hs₁
    rw [← hs₁] at hestablished hchanges
    obtain ⟨-, hobserves⟩ := (Controller.grants_only _).observes_of_alike
      (fun _ => Controller.isLookup_of_isGrantQuestion)
      (fun _ => Controller.answer_of_changes hchanges) hgrants
    exact quiet_reconcile hn hobserves hestablished

/-- A run that ends well has brought about every grant, with the rules and subjects that it found
there should be, and another run afterwards comes to the same and writes nothing. -/
theorem reconcile_converges (interval : Duration) (n : Namespace)
    (hn : n.metadata.deletionTimestamp = none) (s s' : System) (hs : s.cluster.Orderly)
    (tenants : List Tenant)
    (htenants : (s.cluster.answer (.listTenants n.metadata.anyName)).1 = .ok tenants)
    (htenantNames : (tenants.map (·.metadata.anyName)).Nodup) (inventories : List Inventory)
    (hinventories : (s.cluster.answer (.listInventories n.metadata.anyName)).1 = .ok inventories)
    (hinventoryNames : (inventories.map (·.metadata.anyName)).Nodup)
    (hrun : Controller.exec System.answer (n.reconcile interval) s =
      (.ok (.requeue interval), s')) :
    ∃ gs : Grants, Controller.exec System.answer (Controller.grants n.metadata.anyName) s =
        (.ok gs, s) ∧
      gs.tenants.map (·.viewed) = tenants.map (·.viewed) ∧
      gs.inventories.map (·.viewed) = inventories.map (·.viewed n.metadata.anyName) ∧
      (∀ g ∈ gs.tenants ++ gs.inventories,
        g.viewed.HasRole s'.cluster ∧ g.viewed.HasBinding g.subjects s'.cluster) ∧
      ∀ s₁, s₁.cluster = s'.cluster → ∃ t s₂,
        Controller.Runs System.answer (n.reconcile interval) s₁ t (.ok (.requeue interval)) s₂ ∧
        (∀ e ∈ t, Step.KeepsCluster e.1) ∧ s₂.cluster = s'.cluster := by
  obtain ⟨-, gs, hgrants, htenantViews, hinventoryViews, hhas, hquiet⟩ := converges_of_runs hn hs
    htenants htenantNames hinventories hinventoryNames (t := _) ⟨hrun, rfl⟩
  refine ⟨gs, hgrants, htenantViews, hinventoryViews, hhas, fun s₁ hs₁ => ?_⟩
  rw [← hs₁]
  exact (hquiet s₁ hs₁).exists_runs_keeping

/-- A role that allows everything is reduced, a binding of another role is made anew, and what is
missing is created. -/
theorem reconcile_converges_over_drift :
    let tenant : Json := .object
      [("metadata", .object [("name", .string "acme"), ("uid", .string "u0")]),
        ("spec", .object [("inventoryNamespace", .string "team")])]
    let inventory : Json := .object
      [("metadata", .object [("name", .string "orders"), ("namespace", .string "team"),
          ("uid", .string "u1")]),
        ("spec", .object [("credentialsRef", .object [("name", .string "key")]),
          ("providerRef", .object [("name", .string "bridge")])])]
    let role : Json := .object
      [("metadata", .object [("name", .string "dbaas-inventory-orders-viewer"),
          ("namespace", .string "team"), ("resourceVersion", .string "7")]),
        ("rules", .array [.object [("verbs", .array [.string "*"])]])]
    let binding : Json := .object
      [("metadata", .object [("name", .string "dbaas-tenant-acme-viewer"),
          ("resourceVersion", .string "8")]),
        ("roleRef", .object [("name", .string "cluster-admin")])]
    let s : System :=
      { cluster :=
        { version := 8
          reviews := [⟨.listInventories "team", ["ann"], []⟩]
          objects := fun
            | .tenants => [tenant]
            | .facades .inventory => [inventory]
            | .roles => [role]
            | .clusterBindings => [binding]
            | _ => [] } }
    let n : Namespace := ⟨{ name := some "team" }⟩
    ∃ s' gs, Controller.exec System.answer (n.reconcile (.ofSeconds 60)) s =
        (.ok (.requeue (.ofSeconds 60)), s') ∧
      Controller.exec System.answer (Controller.grants "team") s = (.ok gs, s) ∧
      (gs.tenants ++ gs.inventories).length = 2 ∧
      (∀ g ∈ gs.tenants ++ gs.inventories,
        g.viewed.HasRole s'.cluster ∧ g.viewed.HasBinding g.subjects s'.cluster) ∧
      ∃ t s'', Controller.Runs System.answer (n.reconcile (.ofSeconds 60)) s' t
        (.ok (.requeue (.ofSeconds 60))) s'' ∧ ∀ e ∈ t, Step.KeepsCluster e.1 := by
  intro tenant inventory role binding s n
  let acme : Tenant := ⟨{ name := some "acme", uid := some "u0" }, ⟨"team", ⟨[], []⟩⟩⟩
  let orders : Inventory :=
    ⟨⟨{ name := some "orders", ns := some "team", uid := some "u1" },
      ⟨⟨"bridge"⟩, ⟨"key"⟩, none, ⟨none, none, none⟩⟩⟩, none⟩
  have hcanonical : ∀ j ∈ [tenant, inventory, role, binding], j.Canonical := by
    simp only [tenant, inventory, role, binding, List.forall_mem_cons, List.not_mem_nil,
      false_implies, implies_true, Json.Canonical, Json.CanonicalMembers, Json.CanonicalItems,
      Dict.Sorted, and_true]
    decide
  have hs : s.cluster.Orderly := by
    refine ⟨fun c j hj => hcanonical j ?_, fun c hc => ?_⟩
    · simp only [s] at hj
      split at hj <;> simp_all
    · simp only [s]
      split <;> simp
  have htenants : (s.cluster.answer (.listTenants "team")).1 = .ok [acme] :=
    congrArg Except.ok (List.mergeSort_singleton acme)
  have hinventories : (s.cluster.answer (.listInventories "team")).1 = .ok [orders] := rfl
  let gs := Controller.grantsFor "team" [orders] [acme] ⟨[.user "ann"], by simp⟩
  have hgrants : Controller.Runs System.answer (Controller.grants "team") s _ (.ok gs) s :=
    .bind (.api rfl) (.bind (.api (Prod.ext htenants rfl)) ⟨rfl, rfl⟩)
  have hsettled : (Controller.exec System.answer
      (Controller.establishAll (gs.tenants ++ gs.inventories)) s).1.toOption = some true := by
    decide +kernel +zetaReduce
  have hestablish := Controller.Runs.refl System.answer
    (Controller.establishAll (gs.tenants ++ gs.inventories)) s
  rw [Except.toOption_eq_some.1 hsettled] at hestablish
  generalize (Controller.exec System.answer
    (Controller.establishAll (gs.tenants ++ gs.inventories)) s).2 = s₁ at hestablish
  have hend : Controller.Runs System.answer (do
      Controller.memory (.forgetFailures .grants "team")
      pure (Action.requeue (.ofSeconds 60))) s₁ _ (.ok (.requeue (.ofSeconds 60))) _ := ⟨rfl, rfl⟩
  obtain ⟨s', hrun⟩ : ∃ s', Controller.exec System.answer (n.reconcile (.ofSeconds 60)) s =
      (.ok (.requeue (.ofSeconds 60)), s') := by
    rw [reconcile_eq rfl]
    exact ⟨_, (hgrants.bind (hestablish.bind hend)).exec⟩
  obtain ⟨gs', hgs, -, -, hhas, hagain⟩ := reconcile_converges (.ofSeconds 60) n rfl s s' hs [acme]
    htenants (by decide) [orders] hinventories (by decide) hrun
  obtain rfl : gs = gs' := Except.ok.inj (Prod.mk.inj (hgrants.exec.symm.trans hgs)).1
  obtain ⟨t, s'', hsecond, hkeeps, -⟩ := hagain s' rfl
  exact ⟨s', gs, hrun, hgs, rfl, hhas, t, s'', hsecond, hkeeps⟩

end Namespace

end ControlPlane
