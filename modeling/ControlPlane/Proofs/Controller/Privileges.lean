import ControlPlane.Cluster.Answer
import ControlPlane.Controller.Memory
import ControlPlane.Proofs.Controller.Viewer
import ControlPlane.Proofs.History

/-!
# The privileges that are given, and in which order

Whatever the API server answers, no run of the grants controller writes rules that allow more than
to get one tenant or inventory that it was told of, and it touches a binding only after it has found
the role of this name with just these rules, or has written them.
-/

namespace ControlPlane

variable {ns : String} {h h' : List Event} {c : Step}

/-- The step sends rules for the role of this name. -/
inductive Step.WritesRules : Step → Scope → String → List AccessRule → Prop
  | create (scope : Scope) (role : Role) :
    WritesRules (.api (.createRole scope role)) scope role.metadata.anyName (role.rules.getD [])
  | patch (scope : Scope) (name : String) (version : Option String) (rules : List AccessRule) :
    WritesRules (.api (.patchRules scope name version rules)) scope name rules

/-- The step creates the binding of this name, deletes it to create it anew, or changes its
subjects. -/
inductive Step.WritesBinding : Step → Scope → String → Prop
  | create (scope : Scope) (binding : RoleBinding) :
    WritesBinding (.api (.createBinding scope binding)) scope binding.metadata.anyName
  | delete (scope : Scope) (name : String) :
    WritesBinding (.api (.deleteBinding scope name)) scope name
  | patch (scope : Scope) (name : String) (version : Option String)
    (subjects : List BindingSubject) :
    WritesBinding (.api (.patchSubjects scope name version subjects)) scope name

/-- The role of this name was found with exactly these rules, or was successfully given them. -/
inductive Event.ShowsRules : Event → Scope → String → List AccessRule → Prop
  | found (scope : Scope) (name : String) {role : Role} {rules : List AccessRule}
    (hr : role.rules = some rules) :
    ShowsRules ⟨.api (.getRole scope name), .ok (some role)⟩ scope name rules
  | created (scope : Scope) {role : Role} {rules : List AccessRule} (hr : role.rules = some rules) :
    ShowsRules ⟨.api (.createRole scope role), .ok ()⟩ scope role.metadata.anyName rules
  | patched (scope : Scope) (name : String) (version : Option String) (rules : List AccessRule) :
    ShowsRules ⟨.api (.patchRules scope name version rules), .ok ()⟩ scope name rules

/-- The run was told of a tenant that claims the namespace, or of an inventory in it, of the given
name, and the role is the viewer role of this object, whose resources are the given ones. -/
inductive ViewerRole (ns : String) (h : List Event) :
    Scope → (role : String) → (resources : List String) → (name : String) → Prop
  | tenant {tenants : List Tenant} (hlisted : ⟨.api (.listTenants ns), .ok tenants⟩ ∈ h)
    {t : Tenant} (ht : t ∈ tenants) :
    ViewerRole ns h .cluster s!"dbaas-tenant-{t.metadata.anyName}-viewer" ["dbaastenants"]
      t.metadata.anyName
  | inventory {inventories : List Inventory}
    (hlisted : ⟨.api (.listInventories ns), .ok inventories⟩ ∈ h) {i : Inventory}
    (hi : i ∈ inventories) :
    ViewerRole ns h (.namespaced ns) s!"dbaas-inventory-{i.metadata.anyName}-viewer"
      ["dbaasinventories", "dbaasinventories/status"] i.metadata.anyName

/-- After these events the step gives no more than the privilege to get an object that the run was
told of, and touches a binding only where the role of its name gives just this. -/
structure Step.Permitted (ns : String) (before : List Event) (c : Step) : Prop where
  rules : ∀ scope role rules, c.WritesRules scope role rules →
    ∃ resources name rule, ViewerRole ns before scope role resources name ∧ rules = [rule] ∧
      rule.ReadsOnly resources name
  binding : ∀ scope role, c.WritesBinding scope role →
    ∃ resources name rule, ViewerRole ns before scope role resources name ∧
      rule.ReadsOnly resources name ∧ ∃ e ∈ before, e.ShowsRules scope role [rule]
  /-- The role belongs to the object that it allows to get. -/
  owner : ∀ scope role, c = .api (.createRole scope role) → ∃ resources owner,
    ViewerRole ns before scope role.metadata.anyName resources owner.name ∧
      role.metadata.ownerReferences = some [owner]
  /-- A binding gives the role of its own name. -/
  roleRef : ∀ scope binding, c = .api (.createBinding scope binding) →
    binding.roleRef =
      ⟨"rbac.authorization.k8s.io", scope.breadth.roleKind, binding.metadata.anyName⟩

theorem ViewerRole.mono {scope : Scope} {role name : String} {resources : List String}
    (hv : ViewerRole ns h scope role resources name) (hsub : h ⊆ h') :
    ViewerRole ns h' scope role resources name := by
  cases hv with
  | tenant hlisted ht => exact .tenant (hsub hlisted) ht
  | inventory hlisted hi => exact .inventory (hsub hlisted) hi

/-- The run was told of the object. -/
def ViewedObject.ToldOf (ns : String) (h : List Event) (v : ViewedObject) : Prop :=
  ViewerRole ns h v.scope v.roleName v.resources v.metadata.anyName

theorem ViewedObject.owner_name {v : ViewedObject} {owner : OwnerReference}
    (h : v.owner = .ok owner) : owner.name = v.metadata.anyName := by
  unfold ViewedObject.owner Metadata.ownerReference Metadata.ownerReference? at h
  unfold Metadata.anyName
  cases hname : v.metadata.name with
  | none => simp [hname] at h
  | some name =>
    cases huid : v.metadata.uid with
    | none => simp [hname, huid] at h
    | some uid =>
      simp only [hname, huid, Except.ok.injEq] at h
      simp [← h]

/-- A step that writes neither rules nor bindings. -/
structure Step.GivesNothing (c : Step) : Prop where
  rules : ∀ scope role rules, ¬ c.WritesRules scope role rules
  binding : ∀ scope role, ¬ c.WritesBinding scope role

theorem Step.IsGrantQuestion.givesNothing (hc : c.IsGrantQuestion ns) : c.GivesNothing := by
  unfold IsGrantQuestion at hc
  split at hc
  · exact ⟨nofun, nofun⟩
  · exact ⟨nofun, nofun⟩
  · exact ⟨nofun, nofun⟩
  · exact hc.elim

theorem Step.GivesNothing.permitted (hc : c.GivesNothing) : c.Permitted ns h where
  rules scope role rules hw := (hc.rules scope role rules hw).elim
  binding scope role hw := (hc.binding scope role hw).elim
  owner scope role heq := by
    subst heq
    exact (hc.rules scope _ _ (.create scope role)).elim
  roleRef scope binding heq := by
    subst heq
    exact (hc.binding scope _ (.create scope binding)).elim

namespace ViewedObject

variable {v : ViewedObject} {subjects : SubjectSet} {role : Role} {binding : RoleBinding}

theorem ToldOf.mono (hv : v.ToldOf ns h) (hsub : h ⊆ h') : v.ToldOf ns h' :=
  ViewerRole.mono hv hsub

theorem ToldOf.createRole (hv : v.ToldOf ns h) (hrole : v.role = .ok role) :
    (Step.api (.createRole v.scope role)).Permitted ns h := by
  obtain ⟨owner, howner, rfl⟩ := role_eq_ok.1 hrole
  refine ⟨fun scope name rules hw => ?_, fun _ _ hw => ?_, fun scope role heq => ?_,
    fun _ _ heq => ?_⟩
  · cases hw
    exact ⟨_, _, _, hv, rfl, AccessRule.readsOnly_read _ _⟩
  · cases hw
  · cases heq
    refine ⟨v.resources, owner, ?_, rfl⟩
    rw [owner_name howner]
    exact hv
  · cases heq

theorem ToldOf.patchRules (hv : v.ToldOf ns h) (version : Option String) :
    (Step.api (.patchRules v.scope v.roleName version v.rules)).Permitted ns h := by
  refine ⟨fun scope name rules hw => ?_, fun _ _ hw => ?_, fun _ _ heq => ?_, fun _ _ heq => ?_⟩
  · cases hw
    exact ⟨_, _, _, hv, rfl, AccessRule.readsOnly_read _ _⟩
  · cases hw
  · cases heq
  · cases heq

/-- Once the rules of its role are known, the binding may be created. -/
theorem ToldOf.createBinding (hv : v.ToldOf ns h)
    (hrules : ∃ e ∈ h, e.ShowsRules v.scope v.roleName v.rules)
    (hbinding : v.binding subjects = .ok binding) :
    (Step.api (.createBinding v.scope binding)).Permitted ns h := by
  obtain ⟨owner, -, rfl⟩ := binding_eq_ok.1 hbinding
  refine ⟨fun _ _ _ hw => ?_, fun scope name hw => ?_, fun _ _ heq => ?_,
    fun scope binding heq => ?_⟩
  · cases hw
  · cases hw
    exact ⟨_, _, _, hv, AccessRule.readsOnly_read _ _, hrules⟩
  · cases heq
  · cases heq
    rfl

/-- Once the rules of its role are known, the binding may be deleted. -/
theorem ToldOf.deleteBinding (hv : v.ToldOf ns h)
    (hrules : ∃ e ∈ h, e.ShowsRules v.scope v.roleName v.rules) :
    (Step.api (.deleteBinding v.scope v.roleName)).Permitted ns h := by
  refine ⟨fun _ _ _ hw => ?_, fun scope name hw => ?_, fun _ _ heq => ?_, fun _ _ heq => ?_⟩
  · cases hw
  · cases hw
    exact ⟨_, _, _, hv, AccessRule.readsOnly_read _ _, hrules⟩
  · cases heq
  · cases heq

/-- Once the rules of its role are known, the subjects of the binding may be changed. -/
theorem ToldOf.patchSubjects (hv : v.ToldOf ns h)
    (hrules : ∃ e ∈ h, e.ShowsRules v.scope v.roleName v.rules) (version : Option String)
    (subjects : List BindingSubject) :
    (Step.api (.patchSubjects v.scope v.roleName version subjects)).Permitted ns h := by
  refine ⟨fun _ _ _ hw => ?_, fun scope name hw => ?_, fun _ _ heq => ?_, fun _ _ heq => ?_⟩
  · cases hw
  · cases hw
    exact ⟨_, _, _, hv, AccessRule.readsOnly_read _ _, hrules⟩
  · cases heq
  · cases heq

end ViewedObject

namespace Controller

variable {v : ViewedObject} {subjects : SubjectSet} {role : Role} {binding : RoleBinding}

/-- The role is settled with rules that are permitted, and afterwards its rules are known. -/
theorem ensures_convergeRole (hv : v.ToldOf ns h) (hrole : v.role = .ok role) :
    Ensures (Step.Permitted ns)
      (fun r h' => r = .ok true → ∃ e ∈ h', e.ShowsRules v.scope v.roleName v.rules)
      (convergeRole v.scope role) h := by
  rw [convergeRole_eq hrole]
  refine .bind (Q := fun r h' => ⟨.api (.getRole v.scope v.roleName), r⟩ ∈ h')
    (.api (Step.GivesNothing.permitted ⟨nofun, nofun⟩) (by simp)) (by simp) ?_
  intro found h₁ hsub hfound
  have hv := hv.mono hsub
  cases found with
  | none =>
    refine .bind (Q := fun r h' => ⟨.api (.createRole v.scope role), r⟩ ∈ h')
      (.api (hv.createRole hrole) (by simp)) (by simp) ?_
    intro _ h₂ _ hcreated
    obtain ⟨owner, -, rfl⟩ := ViewedObject.role_eq_ok.1 hrole
    exact .pure fun _ => ⟨_, hcreated, .created v.scope rfl⟩
  | some found =>
    refine .ite (fun _ => ?_) fun hsame => ?_
    · refine .bind (Q := fun r h' => ⟨.api (.patchRules v.scope v.roleName
          found.metadata.resourceVersion v.rules), r⟩ ∈ h')
        (.api (hv.patchRules _) (by simp)) (by simp) ?_
      intro _ h₂ _ hpatched
      exact .pure fun _ => ⟨_, hpatched, .patched v.scope v.roleName _ v.rules⟩
    · have hrules := ViewedObject.rules_eq_of_getD (Decidable.not_not.1 hsame)
      exact .pure fun _ => ⟨_, hfound, .found v.scope v.roleName hrules⟩

/-- The binding is settled with writes that are permitted once the rules of its role are known. -/
theorem ensures_convergeBinding (hv : v.ToldOf ns h)
    (hrules : ∃ e ∈ h, e.ShowsRules v.scope v.roleName v.rules)
    (hbinding : v.binding subjects = .ok binding) :
    Ensures (Step.Permitted ns) (fun _ _ => True) (convergeBinding v.scope binding) h := by
  rw [convergeBinding_eq hbinding]
  refine .bind (Q := fun _ _ => True)
    (.api (Step.GivesNothing.permitted ⟨nofun, nofun⟩) fun _ => trivial)
    (fun _ _ _ _ => trivial) ?_
  intro found h₁ hsub _
  have hv := hv.mono hsub
  have hrules : ∃ e ∈ h₁, e.ShowsRules v.scope v.roleName v.rules := by
    obtain ⟨e, he, hshows⟩ := hrules
    exact ⟨e, hsub he, hshows⟩
  cases found with
  | none => exact .api (hv.createBinding hrules hbinding) fun _ => trivial
  | some found =>
    refine .ite (fun _ => ?_) fun _ => .ite (fun _ => ?_) fun _ => .pure trivial
    · refine .bind (Q := fun _ _ => True)
        (.api (hv.deleteBinding hrules) fun _ => trivial) (fun _ _ _ _ => trivial) ?_
      intro _ h₂ hsub _
      obtain ⟨e, he, hshows⟩ := hrules
      exact .api ((hv.mono hsub).createBinding ⟨e, hsub he, hshows⟩ hbinding) fun _ => trivial
    · exact .api (hv.patchSubjects hrules _ _) fun _ => trivial

/-- The role comes first, and without it nothing is bound. -/
theorem ensures_converge (hv : v.ToldOf ns h) (hrole : v.role = .ok role)
    (hbinding : v.binding subjects = .ok binding) :
    Ensures (Step.Permitted ns) (fun _ _ => True) (converge v.scope role binding) h := by
  refine .bind (ensures_convergeRole hv hrole) (fun _ _ _ _ => trivial) ?_
  intro settled h₁ hsub hrules
  refine .ite (fun hsettled => ?_) fun _ => .pure trivial
  exact ensures_convergeBinding (hv.mono hsub) (hrules (congrArg _ hsettled)) hbinding

theorem ensures_establish {g : Grant} (hg : g.viewed.ToldOf ns h) :
    Ensures (Step.Permitted ns) (fun _ _ => True) (establish g) h := by
  rw [establish_eq]
  refine .bind (Q := fun r h' => r = g.viewed.role ∧ h' = h) (.lift ⟨rfl, rfl⟩)
    (fun _ _ _ _ => trivial) ?_
  rintro role _ - ⟨hrole, rfl⟩
  refine .bind (Q := fun r h' => r = g.viewed.binding g.subjects ∧ h' = _) (.lift ⟨rfl, rfl⟩)
    (fun _ _ _ _ => trivial) ?_
  rintro binding _ - ⟨hbinding, rfl⟩
  refine .bind (Q := fun _ _ => True) ?_ (fun _ _ _ _ => trivial) fun _ _ _ _ => .pure trivial
  exact .unlessConflict (ensures_converge hg hrole.symm hbinding.symm) (fun _ _ _ _ => trivial)
    (fun _ _ _ _ => trivial) fun _ _ _ _ => trivial

theorem ensures_establishAll {grants : List Grant} (h : List Event)
    (hgrants : ∀ g ∈ grants, g.viewed.ToldOf ns h) :
    Ensures (Step.Permitted ns) (fun _ _ => True) (establishAll grants) h := by
  induction grants generalizing h with
  | nil => exact .pure trivial
  | cons g rest ih =>
    obtain ⟨hg, hrest⟩ := List.forall_mem_cons.1 hgrants
    refine .bind (ensures_establish hg) (fun _ _ _ _ => trivial) ?_
    intro _ h₁ hsub _
    refine .bind (ih h₁ fun g' hg' => (hrest g' hg').mono hsub) (fun _ _ _ _ => trivial) ?_
    exact fun _ _ _ _ => .pure trivial

/-- Each grant is for an object that the run was told of. -/
theorem ensures_grants (ns : String) (h : List Event) :
    Ensures (Step.Permitted ns) (fun r h' => ∀ gs, r = .ok gs →
      ∀ g ∈ gs.tenants ++ gs.inventories, g.viewed.ToldOf ns h') (grants ns) h := by
  refine .bind (Q := fun r h' => ⟨.api (.listInventories ns), r⟩ ∈ h')
    (.api (Step.GivesNothing.permitted ⟨nofun, nofun⟩) (by simp)) (by simp) ?_
  intro inventories h₁ _ hinventories
  refine .bind (Q := fun r h' => ⟨.api (.listTenants ns), r⟩ ∈ h')
    (.api (Step.GivesNothing.permitted ⟨nofun, nofun⟩) (by simp)) (by simp) ?_
  intro tenants h₂ hsub htenants
  have hinventories := hsub hinventories
  have htold (viewers : SubjectSet) {h₃ : List Event} (hsub : h₂ ⊆ h₃) :
      ∀ g ∈ tenants.map (fun t => (⟨t.viewed, viewers⟩ : Grant)) ++
        inventories.map (fun i => ⟨i.viewed ns, inventoryViewers tenants i⟩),
      g.viewed.ToldOf ns h₃ := by
    intro g hg
    rcases List.mem_append.1 hg with hg | hg
    · obtain ⟨t, ht, rfl⟩ := List.mem_map.1 hg
      exact .tenant (hsub htenants) ht
    · obtain ⟨i, hi, rfl⟩ := List.mem_map.1 hg
      exact .inventory (hsub hinventories) hi
  refine .ite (fun _ => ?_) fun _ => ?_
  · refine .bind (Q := fun _ _ => True) (.pure trivial) (by simp) fun viewers h₃ hsub _ => ?_
    refine .pure fun gs hgs => ?_
    obtain rfl := Except.ok.inj hgs
    exact htold viewers hsub
  · refine .bind (Q := fun _ _ => True) ?_ (by simp) fun viewers h₃ hsub _ => ?_
    · exact (Ensures.of_only (tenantViewers_only ns inventories)
        fun _ _ _ hc => hc.givesNothing.permitted).mono fun _ _ _ => trivial
    · refine .pure fun gs hgs => ?_
      obtain rfl := Except.ok.inj hgs
      exact htold viewers hsub

theorem ensures_reconcile (n : Namespace) (interval : Duration) :
    Ensures (Step.Permitted n.metadata.anyName) (fun _ _ => True) (n.reconcile interval) [] := by
  refine .ite (fun _ => .pure trivial) fun _ => ?_
  refine .bind (ensures_grants n.metadata.anyName []) (fun _ _ _ _ => trivial) ?_
  intro gs h₁ _ htold
  refine .bind (ensures_establishAll h₁ (htold gs rfl)) (fun _ _ _ _ => trivial) ?_
  intro settled h₂ _ _
  refine .ite (fun _ => ?_) fun _ => .pure trivial
  refine .bind (Q := fun _ _ => True)
    (.memory (Step.GivesNothing.permitted ⟨nofun, nofun⟩) fun _ => trivial)
    (fun _ _ _ _ => trivial) fun _ _ _ _ => .pure trivial

end Controller

/-- Whatever a run is answered, and wherever it fails: each of its writes of rules and bindings is
permitted after what the run has done and seen before. -/
theorem Namespace.reconcile_permitted {σ : Type} (answer : (c : Step) → σ → c.Reply × σ) (s : σ)
    (n : Namespace) (interval : Duration) (before after : List Event) (e : Event)
    (htrace : Controller.trace answer (n.reconcile interval) s = before ++ e :: after) :
    e.1.Permitted n.metadata.anyName before :=
  (Controller.ensures_reconcile n interval).of_trace htrace

/-- A role that allows everything is found, and is reduced before it is bound. -/
theorem Namespace.reconcile_permitted_over_wildcard :
    let orders : Inventory :=
      ⟨⟨{ name := some "orders", ns := some "team", uid := some "u1" },
        ⟨⟨"bridge"⟩, ⟨"key"⟩, some ⟨["ann"], []⟩, ⟨none, none, none⟩⟩⟩, none⟩
    let wildcard : Role :=
      ⟨{ name := some "dbaas-inventory-orders-viewer", resourceVersion := some "7" },
        some [⟨some ["*"], none, none, some ["*"], ["*"]⟩]⟩
    let answer : (c : Step) → Cluster → c.Reply × Cluster
      | .api (.listInventories _), s => (.ok [orders], s)
      | .api (.listTenants _), s => (.ok [], s)
      | .api (.getRole _ _), s => (.ok (some wildcard), s)
      | .api (.patchRules _ _ _ _), s => (.ok (), s)
      | .api c, s => s.answer c
      | .memory c, s => ((Memory.answer c {}).1, s)
    let n : Namespace := ⟨{ name := some "team" }⟩
    ∃ before after binding, Controller.trace answer (n.reconcile (.ofSeconds 60)) {} =
        before ++ ⟨.api (.createBinding (.namespaced "team") binding), .ok ()⟩ :: after ∧
      (Step.api (.createBinding (.namespaced "team") binding)).Permitted "team" before := by
  intro orders wildcard answer n
  have htrace : Controller.trace answer (n.reconcile (.ofSeconds 60)) {} =
      (Controller.trace answer (n.reconcile (.ofSeconds 60)) {}).take 5 ++
        ⟨.api (.createBinding (.namespaced "team") _), .ok ()⟩ ::
          (Controller.trace answer (n.reconcile (.ofSeconds 60)) {}).drop 6 := rfl
  exact ⟨_, _, _, htrace, reconcile_permitted answer {} n _ _ _ _ htrace⟩

end ControlPlane
