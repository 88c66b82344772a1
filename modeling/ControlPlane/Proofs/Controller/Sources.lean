import ControlPlane.Proofs.Controller.Arbitration
import ControlPlane.Proofs.Controller.BackendWrites
import ControlPlane.Proofs.Controller.Convergence

/-!
# What the writes of a run are computed from

Whatever the API server answers, a run writes a backend, a policy, a role or a binding under a
version only when it has read the object before, and then under the version that it read. The status
of a facade it writes under the version of the facade. A facade's backend is read before anything is
written, and the policies are listed before all else. `Takes` says of each kind of run what it may
do after which events.
-/

namespace ControlPlane

open Controller

/-! ## Facades -/

namespace Facade

variable {k : FacadeKind} {f : Facade k} {h : List Event} {α : Type}

/-- What a run of the facade may do after the events. -/
inductive Takes (f : Facade k) (h : List Event) : Step → Prop
  | keep {c : Step} (hkeeps : c.KeepsCluster) (hspares : c.SparesBackends) : Takes f h c
  | ask (resource : ApiResource) (ns : String) (hkept : ∀ e ∈ h, e.1.KeepsCluster) :
    Takes f h (.api (.getBackend resource ns f.metadata.anyName))
  | create (resource : ApiResource) (ns : String) (b : Backend) :
    Takes f h (.api (.createBackend resource ns b))
  | replace {resource : ApiResource} {ns : String} {current : Backend}
    (hread : ⟨.api (.getBackend resource ns f.metadata.anyName), .ok (some current)⟩ ∈ h) :
    Takes f h (.api (.replaceBackend resource ns (current.withSpec f.specJson)))
  | status (x : Status k.Details) : Takes f h (.api (f.statusCall x))

/-- Nothing was written. -/
def Kept (h : List Event) : Prop := ∀ e ∈ h, e.1.KeepsCluster

/-- The step is one of the memory, a lookup of something else than a backend, or it writes the
status. -/
def Tells (f : Facade k) (c : Step) : Prop :=
  (c.KeepsCluster ∧ c.SparesBackends) ∨ ∃ x, c = .api (f.statusCall x)

theorem takes_of_telling {x : Controller α} (hx : Only f.Tells x) (h : List Event) :
    Ensures f.Takes (fun _ _ => True) x h := by
  refine (Ensures.of_only hx fun t c _ hc => ?_).mono fun _ _ _ => trivial
  rcases hc with ⟨hkeeps, hspares⟩ | ⟨x, rfl⟩
  · exact .keep hkeeps hspares
  · exact .status x

/-- The backend is read first, and replaced only as it was read. -/
theorem syncBackend_takes (hh : Kept h) (resource : ApiResource) (ns : String) :
    Ensures f.Takes (fun _ _ => True) (f.syncBackend resource ns) h := by
  have hwrite {c : Call} {h : List Event} (hc : f.Takes h (.api c)) :
      Ensures f.Takes (fun _ _ => True) (unlessConflict (api c)) h :=
    .unlessConflict_api hc (fun _ => trivial) (fun _ _ => trivial) fun _ _ => trivial
  refine syncBackend_ensures (.ask resource ns hh) ?unread ?unnamed ?missing ?refused ?current
    ?drifted
  case missing => exact fun b _ => hwrite (.create resource ns b)
  case drifted =>
    exact fun b _ _ => hwrite (.replace (List.mem_append_right _ (List.mem_singleton_self _)))
  all_goals intros; trivial

theorem provision_takes (hh : Kept h) (interval : Duration) (now : Instant)
    (resource : ApiResource) (ns : String) :
    Ensures f.Takes (fun _ _ => True) (f.provision interval now resource ns) h := by
  refine provision_ensures (syncBackend_takes hh resource ns) ?failed ?contested ?unreadable
    ?derived
  case derived => exact fun b x h' _ _ =>
    takes_of_telling (report_only (fun x => .inr ⟨x, rfl⟩) (.inl ⟨trivial, trivial⟩)) h'
  all_goals intros; trivial

/-- A run writes nothing but what it may. -/
theorem reconcile_takes (f : Facade k) (interval : Duration) (now : Instant) :
    Ensures f.Takes (fun _ _ => True) (f.reconcile interval now) [] := by
  have hstages : f.Stages interval now f.Takes (fun _ _ => True) Kept :=
    { lookup := fun h c hh hc _ => ⟨.keep hc.keepsCluster hc.sparesBackends, fun r =>
        List.forall_mem_append.2 ⟨hh, List.forall_mem_singleton.2 hc.keepsCluster⟩⟩
      stop := fun _ _ _ => trivial
      record := fun h c _ => (takes_of_telling (recordCondition_only fun x => .inr ⟨x, rfl⟩) h).mono
        fun _ _ _ _ => trivial
      provision := fun h resource ns _ hh => provision_takes hh interval now resource ns }
  exact hstages.reconcile fun _ he => nomatch he

end Facade

/-! ## Policies -/

namespace Policy

/-- What a run may do after the events: list the policies, and then tell those that were listed
whether they are the one that governs. -/
inductive Takes (now : Instant) (ns : String) : List Event → Step → Prop
  | list : Takes now ns [] (.api (.listPolicies ns))
  | announce {policies : List Policy} {winner : Policy} {c : Step}
    (hwinner : governing? (sort policies) = some winner)
    (hc : Announcement ns now (sort policies) winner c) (h : List Event) :
    Takes now ns (⟨.api (.listPolicies ns), .ok policies⟩ :: h) c

/-- A run announces what it found when it listed the policies. -/
theorem reconcile_takes {p : Policy} {ns : String} (hns : p.metadata.ns = some ns)
    (interval : Duration) (now : Instant) :
    Ensures (Takes now ns) (fun _ _ => True) (p.reconcile interval now) [] := by
  rw [reconcile_eq hns]
  have hlist : Ensures (Takes now ns) (fun r h' => h' = [⟨.api (.listPolicies ns), r⟩])
      (api (.listPolicies ns)) [] := .api .list fun _ => rfl
  refine hlist.bind (fun _ _ _ _ => trivial) ?_
  rintro policies _ - rfl
  unfold arbitrate
  cases hwinner : governing? (sort policies) with
  | none => exact .pure trivial
  | some winner =>
    have hrest : Only (Announcement ns now (sort policies) winner) (do
        if ← announce now ns winner.metadata.anyName (sort policies) then
          memory (.forgetFailures .policy p.key)
          return .requeue interval
        else return .requeue conflictPause : Controller Action) :=
      .bind (announce_only now fun p hp => hp) fun _ =>
        .ite (.bind (.memory (.memory _)) fun _ => .pure) .pure
    exact (Ensures.of_only hrest fun t c _ hc => .announce hwinner hc t).mono fun _ _ _ => trivial

end Policy

/-! ## Grants -/

namespace Namespace

variable {h : List Event} {α : Type}

/-- What a run of the grants controller may do after the events. -/
inductive Takes (h : List Event) : Step → Prop
  | keep {c : Step} (hkeeps : c.KeepsCluster) : Takes h c
  | createRole {v : ViewedObject} {role : Role} (hrole : v.role = .ok role) :
    Takes h (.api (.createRole v.scope role))
  | patchRules {scope : Scope} {name : String} {found : Role}
    (hread : ⟨.api (.getRole scope name), .ok (some found)⟩ ∈ h) (rules : List AccessRule) :
    Takes h (.api (.patchRules scope name found.metadata.resourceVersion rules))
  | createBinding {v : ViewedObject} {subjects : SubjectSet} {binding : RoleBinding}
    (hbinding : v.binding subjects = .ok binding) : Takes h (.api (.createBinding v.scope binding))
  | deleteBinding (scope : Scope) (name : String) : Takes h (.api (.deleteBinding scope name))
  | patchSubjects {scope : Scope} {name : String} {found : RoleBinding}
    (hread : ⟨.api (.getBinding scope name), .ok (some found)⟩ ∈ h)
    (subjects : List BindingSubject) :
    Takes h (.api (.patchSubjects scope name found.metadata.resourceVersion subjects))

theorem takes_of_keeping {x : Controller α} (hx : Only Step.KeepsCluster x) (h : List Event) :
    Ensures Takes (fun _ _ => True) x h :=
  (Ensures.of_only hx fun _ _ _ hc => .keep hc).mono fun _ _ _ => trivial

theorem takes_api {c : Call} (hc : Takes h (.api c)) :
    Ensures Takes (fun _ _ => True) (api c) h := .api hc fun _ => trivial

theorem convergeRole_takes {v : ViewedObject} {role : Role} (hrole : v.role = .ok role)
    (h : List Event) : Ensures Takes (fun _ _ => True) (convergeRole v.scope role) h := by
  rw [convergeRole_eq hrole]
  have hget : Ensures Takes (fun r h' => ⟨.api (.getRole v.scope v.roleName), r⟩ ∈ h')
      (api (.getRole v.scope v.roleName)) h := .api_told (.keep trivial)
  refine hget.bind (fun _ _ _ _ => trivial) fun found h₁ _ hread => ?_
  cases found with
  | none =>
    exact (takes_api (.createRole hrole)).bind (fun _ _ _ _ => trivial)
      fun _ _ _ _ => .pure trivial
  | some found =>
    refine .ite (fun _ => ?_) fun _ => .pure trivial
    exact (takes_api (.patchRules hread _)).bind (fun _ _ _ _ => trivial)
      fun _ _ _ _ => .pure trivial

theorem convergeBinding_takes {v : ViewedObject} {subjects : SubjectSet} {binding : RoleBinding}
    (hbinding : v.binding subjects = .ok binding) (h : List Event) :
    Ensures Takes (fun _ _ => True) (convergeBinding v.scope binding) h := by
  rw [convergeBinding_eq hbinding]
  have hget : Ensures Takes (fun r h' => ⟨.api (.getBinding v.scope v.roleName), r⟩ ∈ h')
      (api (.getBinding v.scope v.roleName)) h := .api_told (.keep trivial)
  refine hget.bind (fun _ _ _ _ => trivial) fun found h₁ _ hread => ?_
  cases found with
  | none => exact takes_api (.createBinding hbinding)
  | some found =>
    refine .ite (fun _ => ?_) fun _ => .ite (fun _ => ?_) fun _ => .pure trivial
    · exact (takes_api (.deleteBinding _ _)).bind (fun _ _ _ _ => trivial)
        fun _ _ _ _ => takes_api (.createBinding hbinding)
    · exact takes_api (.patchSubjects hread _)

theorem establish_takes (g : Grant) (h : List Event) :
    Ensures Takes (fun _ _ => True) (establish g) h := by
  cases hrole : g.viewed.role with
  | error e =>
    rw [establish_eq, hrole]
    exact .throw trivial
  | ok role =>
    cases hbinding : g.viewed.binding g.subjects with
    | error e =>
      rw [establish_eq, hrole, hbinding]
      exact .throw trivial
    | ok binding =>
      rw [establish_of_ok hrole hbinding]
      have hconverge : Ensures Takes (fun _ _ => True) (converge g.viewed.scope role binding) h :=
        (convergeRole_takes hrole h).bind (fun _ _ _ _ => trivial) fun _ h₁ _ _ =>
          .ite (fun _ => convergeBinding_takes hbinding h₁) fun _ => .pure trivial
      have hdone : Ensures Takes (fun _ _ => True)
          (unlessConflict (converge g.viewed.scope role binding)) h :=
        hconverge.unlessConflict (fun _ _ _ _ => trivial) (fun _ _ _ _ => trivial)
          fun _ _ _ _ => trivial
      exact hdone.bind (fun _ _ _ _ => trivial) fun _ _ _ _ => .pure trivial

theorem establishAll_takes (grants : List Grant) (h : List Event) :
    Ensures Takes (fun _ _ => True) (establishAll grants) h := by
  induction grants generalizing h with
  | nil => exact .pure trivial
  | cons g rest ih =>
    refine (establish_takes g h).bind (fun _ _ _ _ => trivial) fun _ h₁ _ _ => ?_
    exact (ih h₁).bind (fun _ _ _ _ => trivial) fun _ _ _ _ => .pure trivial

/-- A run writes rules and subjects only under versions that it read. -/
theorem reconcile_takes (n : Namespace) (interval : Duration) :
    Ensures Takes (fun _ _ => True) (n.reconcile interval) [] := by
  have hmemory (b : Bool) (h : List Event) : Ensures Takes (fun _ _ => True) (if b then do
        memory (.forgetFailures .grants n.metadata.anyName)
        return .requeue interval
      else return .requeue conflictPause : Controller Action) h :=
    takes_of_keeping (.ite (.bind (.memory trivial) fun _ => .pure) .pure) h
  have hquestions : Only Step.KeepsCluster (grants n.metadata.anyName) :=
    Program.Only.mono (grants_only _) fun _ hc => (isLookup_of_isGrantQuestion hc).keepsCluster
  refine .ite (fun _ => .pure trivial) fun _ => ?_
  refine (takes_of_keeping hquestions []).bind (fun _ _ _ _ => trivial) fun gs h₁ _ _ => ?_
  exact (establishAll_takes _ h₁).bind (fun _ _ _ _ => trivial) fun b h₂ _ _ => hmemory b h₂

end Namespace

end ControlPlane
