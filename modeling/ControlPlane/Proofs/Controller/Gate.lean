import ControlPlane.Controller.Facade
import ControlPlane.Proofs.Controller.System
import ControlPlane.Proofs.Facade.Status
import ControlPlane.Proofs.Policy.Effective
import ControlPlane.Proofs.Policy.Governing

/-!
# The decision of the inventory gate

`GateView` is what the gate is answered, and `GateView.Verdict` what it has to decide then: the
first of the checks that fails, or to go on with the provider of the inventory. The gate reads and
does nothing else, and what a facade does after an obstacle is to report it.
-/

namespace ControlPlane

/-- What the gate reads: the inventory if there is one, the policies of its namespace and the labels
of the namespace of the facade. -/
structure GateView where
  inventory : Option Inventory
  policies : List Policy
  labels : Dict String

namespace GateView

/-- The verdict of the gate where `governing` is the policy of the inventory's namespace. -/
inductive Verdict (v : GateView) (governing : Option Policy) (a : Admission) :
    Except Obstacle String → Prop
  | missing (h : v.inventory = none) : Verdict v governing a (.error .missing)
  | notReady {i : Inventory} (h : v.inventory = some i) (hr : i.isReady = false) :
    Verdict v governing a (.error .notReady)
  | namespaceNotAllowed {i : Inventory} (h : v.inventory = some i) (hr : i.isReady = true)
    (ha : ¬ i.Admits governing a.inventoryNs a.ns v.labels) :
    Verdict v governing a (.error .namespaceNotAllowed)
  | provisioningDisabled {i : Inventory} (h : v.inventory = some i) (hr : i.isReady = true)
    (ha : i.Admits governing a.inventoryNs a.ns v.labels)
    (hp : a.kind = .dbInstance ∧ i.ForbidsProvisioning governing) :
    Verdict v governing a (.error .provisioningDisabled)
  | admitted {i : Inventory} (h : v.inventory = some i) (hr : i.isReady = true)
    (ha : i.Admits governing a.inventoryNs a.ns v.labels)
    (hp : ¬ (a.kind = .dbInstance ∧ i.ForbidsProvisioning governing)) :
    Verdict v governing a (.ok i.spec.providerRef.name)

/-- There is no other verdict. -/
theorem Verdict.unique {v : GateView} {governing : Option Policy} {a : Admission}
    {x y : Except Obstacle String} (hx : v.Verdict governing a x) (hy : v.Verdict governing a y) :
    x = y := by
  cases hx <;> cases hy <;> simp_all

variable {σ : Type}

/-- From the state `s` the reads of the gate succeed, and are answered what `v` says. -/
structure Answered (answer : (c : Step) → σ → c.Reply × σ) (a : Admission) (s : σ)
    (v : GateView) : Prop where
  inventory : (answer (.api (.getInventory a.inventoryNs a.inventoryName)) s).1 = .ok v.inventory
  policies : ∀ i, v.inventory = some i → i.isReady = true →
    (answer (.api (.listPolicies a.inventoryNs))
      (answer (.api (.getInventory a.inventoryNs a.inventoryName)) s).2).1 = .ok v.policies
  labels : ∀ i, v.inventory = some i → i.isReady = true →
    (EffectivePolicy.resolve i (Policy.governing? v.policies)).needsLabels a.inventoryNs a.ns =
      true →
    (answer (.api (.namespaceLabels a.ns))
      (answer (.api (.listPolicies a.inventoryNs))
        (answer (.api (.getInventory a.inventoryNs a.inventoryName)) s).2).2).1 = .ok v.labels

end GateView

/-- The reason and the message that are given for an obstacle, and how reconciling ends there. -/
inductive Obstacle.Told (interval : Duration) (a : Admission) :
    Obstacle → String → String → Except Error Action → Prop
  | missing : Told interval a .missing "InventoryNotFound"
    s!"inventory {a.inventoryNs}/{a.inventoryName} not found"
    (.error (.inventoryNotFound a.inventoryName a.inventoryNs))
  | notReady : Told interval a .notReady "InventoryNotReady"
    s!"inventory {a.inventoryNs}/{a.inventoryName} is not ready" (.ok (.requeue (.ofSeconds 30)))
  | namespaceNotAllowed : Told interval a .namespaceNotAllowed "InvalidConnectionNamespace"
    s!"namespace {a.ns} is not allowed to use inventory {a.inventoryNs}/{a.inventoryName}"
    (.ok (.requeue interval))
  | provisioningDisabled : Told interval a .provisioningDisabled "InventoryNotProvisionable"
    s!"provisioning is disabled for inventory {a.inventoryNs}/{a.inventoryName}"
    (.ok (.requeue interval))

theorem Obstacle.told (interval : Duration) (a : Admission) (o : Obstacle) :
    o.Told interval a o.reason (o.message a) (o.outcome interval a) := by
  cases o
  · exact .missing
  · exact .notReady
  · exact .namespaceNotAllowed
  · exact .provisioningDisabled

/-- What the gate asks. -/
inductive GateRead (a : Admission) : Step → Prop
  | inventory : GateRead a (.api (.getInventory a.inventoryNs a.inventoryName))
  | policies : GateRead a (.api (.listPolicies a.inventoryNs))
  | labels : GateRead a (.api (.namespaceLabels a.ns))

theorem GateRead.isLookup {a : Admission} {c : Step} (h : GateRead a c) : c.IsLookup := by
  cases h <;> exact trivial

/-- The computed obstacle is that of the verdict. -/
theorem EffectivePolicy.verdict_obstacle {v : GateView} {g : Option Policy} {a : Admission}
    {i : Inventory} (h : v.inventory = some i) (hr : i.isReady = true) :
    v.Verdict g a
      (match (resolve i g).obstacle? a v.labels with
        | some o => .error o
        | none => .ok i.spec.providerRef.name) := by
  unfold obstacle?
  by_cases ha : (resolve i g).allows a.inventoryNs a.ns v.labels = true
  · have hadmits := allows_resolve_iff.1 ha
    by_cases hk : a.kind = .dbInstance
    · by_cases hd : (resolve i g).disableProvisions = true
      · simp only [ha, hk, hd]
        exact .provisioningDisabled h hr hadmits ⟨hk, resolve_disableProvisions.1 hd⟩
      · simp only [ha, hk, hd]
        exact .admitted h hr hadmits fun hp => hd (resolve_disableProvisions.2 hp.2)
    · simp only [ha, hk]
      exact .admitted h hr hadmits fun hp => hk hp.1
  · simp only [ha]
    exact .namespaceNotAllowed h hr fun hadmits => ha (allows_resolve_iff.2 hadmits)

theorem EffectivePolicy.obstacle_of_not_needsLabels {p : EffectivePolicy} {a : Admission}
    (h : p.needsLabels a.inventoryNs a.ns = false) (labels labels' : Dict String) :
    p.obstacle? a labels = p.obstacle? a labels' := by
  unfold obstacle?
  rw [allows_of_not_needsLabels h labels labels']

namespace Controller

variable {σ : Type} {answer : (c : Step) → σ → c.Reply × σ} {a : Admission} {s : σ} {v : GateView}

theorem runs_verdict (o : Option Obstacle) (name : String) :
    Runs answer
      (match o with
        | some o => return .error o
        | none => return .ok name : Controller (Except Obstacle String)) s []
      (.ok (match o with
        | some o => .error o
        | none => .ok name)) s := by
  cases o <;> exact .pure

theorem gate_only (a : Admission) : Only (GateRead a) (gate a) := by
  unfold gate
  refine .bind (.api .inventory) ?_
  intro i
  cases i with
  | none => exact .pure
  | some i =>
    refine .ite .pure (.bind (.api .policies) fun policies => ?_)
    have hverdict (o : Option Obstacle) : Only (GateRead a)
        (match o with
          | some o => return .error o
          | none => return .ok i.spec.providerRef.name : Controller (Except Obstacle String)) := by
      cases o <;> exact .pure
    exact .ite (.bind (.api .labels) fun _ => hverdict _) (.bind .pure fun _ => hverdict _)

/-- The gate comes to the verdict. -/
theorem gate_verdict (hv : v.Answered answer a s) :
    ∃ verdict t s', v.Verdict (Policy.governing? v.policies) a verdict ∧
      Runs answer (gate a) s t (.ok verdict) s' := by
  obtain ⟨hinventory, hpolicies, hlabels⟩ := hv
  rcases hq₁ : answer (.api (.getInventory a.inventoryNs a.inventoryName)) s with ⟨r, s₁⟩
  rw [hq₁] at hinventory hpolicies hlabels
  obtain rfl : r = .ok v.inventory := hinventory
  have hget := Runs.api hq₁
  unfold gate
  cases hi : v.inventory with
  | none =>
    rw [hi] at hget
    exact ⟨_, _, s₁, .missing hi, hget.bind .pure⟩
  | some i =>
    rw [hi] at hget
    cases hr : i.isReady with
    | false =>
      refine ⟨_, _, s₁, .notReady hi hr, hget.bind_nil ?_⟩
      simp only [hr]
      exact .pure
    | true =>
      rcases hq₂ : answer (.api (.listPolicies a.inventoryNs)) s₁ with ⟨r, s₂⟩
      have hlist := hpolicies i hi hr
      have hlabels := hlabels i hi hr
      simp only [hq₂] at hlist hlabels
      obtain rfl : r = .ok v.policies := hlist
      have hlist := Runs.api hq₂
      have hverdict := EffectivePolicy.verdict_obstacle (g := Policy.governing? v.policies) (a := a)
        hi hr
      cases hn : (EffectivePolicy.resolve i (Policy.governing? v.policies)).needsLabels
          a.inventoryNs a.ns with
      | false =>
        refine ⟨_, _ ++ ([⟨.api (.listPolicies a.inventoryNs), .ok v.policies⟩] : List Event), s₂,
          hverdict, hget.bind ?_⟩
        simp only [hr]
        refine hlist.bind_nil ?_
        simp only [hn]
        rw [EffectivePolicy.obstacle_of_not_needsLabels hn v.labels []]
        exact runs_verdict _ _
      | true =>
        rcases hq₃ : answer (.api (.namespaceLabels a.ns)) s₂ with ⟨r, s₃⟩
        rw [hq₃] at hlabels
        obtain rfl : r = .ok v.labels := hlabels hn
        refine ⟨_, _ ++ ([⟨.api (.listPolicies a.inventoryNs), .ok v.policies⟩] ++
          [⟨.api (.namespaceLabels a.ns), .ok v.labels⟩] : List Event), s₃, hverdict,
          hget.bind ?_⟩
        simp only [hr]
        refine hlist.bind ?_
        simp only [hn]
        exact (Runs.api hq₃).bind_nil (runs_verdict _ _)

end Controller

namespace Facade

open Controller

variable {k : FacadeKind} {σ : Type} {answer : (c : Step) → σ → c.Reply × σ}

/-- The call that writes a status. -/
def statusCall (f : Facade k) (t : Status k.Details) : Call :=
  .patchFacadeStatus k.resource (f.metadata.ns.getD "") f.metadata.anyName
    f.metadata.resourceVersion (f.statusPatch t)

/-- What comes of an attempt to write something that can be left to the next run. -/
def leavingConflict : Except Error Unit → Except Error Unit
  | .ok () => .ok ()
  | .error e => if e.isConflict then .ok () else .error e

theorem runs_recordCondition_unchanged {f : Facade k} {c : Condition}
    (h : (f.currentStatus.setCondition c).1 = false) (s : σ) :
    Runs answer (f.recordCondition c) s [] (.ok ()) s := by
  unfold recordCondition
  simp only [h]
  exact .pure

theorem runs_recordCondition_changed {f : Facade k} {c : Condition}
    (h : (f.currentStatus.setCondition c).1 = true) {s s' : σ} {r : Except Error Unit}
    (hr : answer (.api (f.statusCall (f.currentStatus.setCondition c).2)) s = (r, s')) :
    Runs answer (f.recordCondition c) s
      [⟨.api (f.statusCall (f.currentStatus.setCondition c).2), r⟩] (leavingConflict r) s' := by
  have hwrite : Runs answer (f.writeStatus (f.currentStatus.setCondition c).2) s _ r s' :=
    Runs.api hr
  show Runs answer (if (f.currentStatus.setCondition c).1 then _ else _) s _ _ s'
  rw [if_pos h]
  cases r with
  | ok _ => exact hwrite.unlessConflict.bind .pure
  | error e =>
    cases he : e.isConflict with
    | true =>
      rw [show leavingConflict (.error e) = .ok () by simp [leavingConflict, he]]
      exact (hwrite.unlessConflict_conflict he).bind .pure
    | false =>
      rw [show leavingConflict (.error e) = .error e by simp [leavingConflict, he]]
      exact (hwrite.unlessConflict_error he).bind_error

/-- The status `t` is that of the facade with nothing changed but its readiness, which fails for
the reason. -/
structure Reports (f : Facade k) (reason message : String) (t : Status k.Details) : Prop where
  details : t.details = f.currentStatus.details
  others : t.conditions.filter (·.type ≠ "Ready") =
    f.currentStatus.conditions.filter (·.type ≠ "Ready")
  ready : ∃ c, Condition.find? t.conditions "Ready" = some c ∧ c.status = .fails ∧
    c.reason = reason ∧ c.message = message

theorem reports_setCondition (f : Facade k) (now : Instant) (a : Admission) (o : Obstacle) :
    f.Reports o.reason (o.message a) (f.currentStatus.setCondition (o.condition now a)).2 where
  details := rfl
  others := by
    rw [Status.conditions_setCondition]
    exact Condition.filter_put (o.condition now a) _
  ready := by
    rw [Status.conditions_setCondition]
    exact ⟨_, Condition.find?_put (o.condition now a) _,
      Condition.says_recorded _ (o.condition now a)⟩

theorem reconcile_of_inventory {f : Facade k} {ref : NamespacedRef}
    (href : f.reference = .inventory ref) {ns : String} (hns : f.metadata.ns = some ns)
    {a : Admission} (ha : a = ⟨k, ns, ref.ns.getD ns, ref.name⟩) (interval : Duration)
    (now : Instant) :
    f.reconcile interval now = (do
      match ← gate a with
      | .ok provider => f.proceed interval now ns provider
      | .error o => do
        f.recordCondition (o.condition now a)
        liftM (o.outcome interval a)) := by
  subst ha
  unfold reconcile
  simp only [hns, href]
  rfl

/-- The gate decides by its specification and before anything else happens: after its reads the
facade goes on with the provider of the inventory where all checks succeed, and else does nothing
but to report the first check that fails, if it has not done so before. -/
theorem gate_decides_first (answer : (c : Step) → σ → c.Reply × σ) (interval : Duration)
    (now : Instant) (f : Facade k) (ref : NamespacedRef) (href : f.reference = .inventory ref)
    (ns : String) (hns : f.metadata.ns = some ns) (a : Admission)
    (ha : a = ⟨k, ns, ref.ns.getD ns, ref.name⟩) (s : σ) (v : GateView)
    (hv : v.Answered answer a s) :
    ∃ governing verdict reads s', Policy.Governs v.policies governing ∧
      v.Verdict governing a verdict ∧ (∀ e ∈ reads, GateRead a e.1) ∧
      (∀ provider, verdict = .ok provider → ∀ t r s'',
        Runs answer (f.proceed interval now ns provider) s' t r s'' →
        Runs answer (f.reconcile interval now) s (reads ++ t) r s'') ∧
      ∀ o, verdict = .error o → ∃ reason message outcome t,
        o.Told interval a reason message outcome ∧ f.Reports reason message t ∧
        (t = f.currentStatus → Runs answer (f.reconcile interval now) s reads outcome s') ∧
        (t ≠ f.currentStatus → ∀ patch, patch =
            ((f.status.map k.statusCodec.encode).getD .null).mergePatch (k.statusCodec.encode t) →
          ∀ (r : Except Error Unit) s'', answer (.api (.patchFacadeStatus k.resource ns
            f.metadata.anyName f.metadata.resourceVersion patch)) s' = (r, s'') →
          Runs answer (f.reconcile interval now) s
            (reads ++ [⟨.api (.patchFacadeStatus k.resource ns f.metadata.anyName
              f.metadata.resourceVersion patch), r⟩])
            (do leavingConflict r; outcome) s'') := by
  obtain ⟨verdict, reads, s', hverdict, hgate⟩ := gate_verdict hv
  have hreads : ∀ e ∈ reads, GateRead a e.1 :=
    hgate.trace ▸ Program.Only.forall_trace (gate_only a) s
  refine ⟨_, verdict, reads, s', Policy.governs_governing v.policies, hverdict, hreads, ?_, ?_⟩
  · rintro provider rfl t r s'' h
    rw [reconcile_of_inventory href hns ha]
    exact hgate.bind h
  · rintro o rfl
    rw [reconcile_of_inventory href hns ha]
    refine ⟨_, _, _, _, o.told interval a, reports_setCondition f now a o, fun ht => ?_,
      fun ht patch hpatch r s'' hr => ?_⟩
    · have hunchanged := Status.setCondition_eq_iff.1 ht
      exact hgate.bind_nil ((runs_recordCondition_unchanged hunchanged s').bind_nil (.lift _))
    · obtain rfl : ns = f.metadata.ns.getD "" := by simp [hns]
      subst hpatch
      have hchanged := Bool.of_not_eq_false fun h => ht (Status.setCondition_eq_iff.2 h)
      have hrecord : Runs answer (f.recordCondition (o.condition now a)) s' _ _ s'' :=
        runs_recordCondition_changed hchanged hr
      refine hgate.bind ?_
      cases hresult : leavingConflict r with
      | ok _ => exact (hresult ▸ hrecord).bind_nil (.lift _)
      | error e => exact (hresult ▸ hrecord).bind_error

/-- A connection of another namespace is turned away from an inventory without a policy. -/
theorem gate_decides_first_against_stranger :
    let stored : Json := .object
      [("metadata", .object [("name", .string "prod"), ("namespace", .string "dbaas")]),
        ("spec", .object [("credentialsRef", .object [("name", .string "secret")]),
          ("providerRef", .object [("name", .string "crunchy")])]),
        ("status", .object [("conditions", .array [.object
          [("status", .string "True"), ("type", .string "Ready")]])])]
    let s : Simulation :=
      { cluster := { objects := fun c => if c = .facades .inventory then [stored] else [] } }
    let f : Facade .connection :=
      ⟨⟨{ name := some "orders", ns := some "team" }, ⟨⟨"prod", some "dbaas"⟩, "db", none, none⟩⟩,
        none⟩
    ∃ reads t patch, ∃ r : Except Error Unit, f.Reports "InvalidConnectionNamespace"
        "namespace team is not allowed to use inventory dbaas/prod" t ∧
      trace Simulation.answer (f.reconcile (.ofSeconds 60) default) s =
        reads ++ [⟨.api (.patchFacadeStatus FacadeKind.connection.resource "team" "orders" none
          patch), r⟩] := by
  intro stored s f
  let i : Inventory :=
    ⟨⟨{ name := some "prod", ns := some "dbaas" },
      ⟨⟨"crunchy"⟩, ⟨"secret"⟩, none, ⟨none, none, none⟩⟩⟩,
      some ⟨[⟨"Ready", .holds, "", "", none⟩], ⟨[]⟩⟩⟩
  obtain ⟨g, verdict, reads, s', hg, hverdict, -, -, herror⟩ :=
    gate_decides_first Simulation.answer (.ofSeconds 60) default f ⟨"prod", some "dbaas"⟩ rfl "team"
      rfl ⟨.connection, "team", "dbaas", "prod"⟩ rfl s ⟨some i, [], []⟩
      ⟨rfl, fun _ _ _ => rfl, fun _ _ _ _ => rfl⟩
  obtain rfl : g = none := by
    cases g with
    | none => rfl
    | some p => rcases hg with ⟨hp, -⟩ | ⟨-, hp, -⟩ <;> cases hp
  have hstranger : ¬ i.Admits none "dbaas" "team" [] := by
    rintro (h | ⟨_, h, -⟩ | ⟨_, h, -⟩)
    · exact absurd h (by decide)
    · cases h
    · cases h
  have hobstacle : verdict = .error .namespaceNotAllowed := by
    cases hverdict with
    | missing h => cases h
    | notReady h hr => cases h; cases hr
    | namespaceNotAllowed => rfl
    | provisioningDisabled h _ ha => cases h; exact absurd ha hstranger
    | admitted h _ ha => cases h; exact absurd ha hstranger
  obtain ⟨_, _, _, t, htold, ht, -, hwrite⟩ := herror _ hobstacle
  cases htold
  have hne : t ≠ f.currentStatus := by
    rintro rfl
    obtain ⟨c, hc, -⟩ := ht.ready
    cases hc
  exact ⟨reads, t, _, _, ht, (hwrite hne _ rfl _ _ rfl).trace⟩

end Facade

end ControlPlane
