import ControlPlane.Proofs.Controller.Gate

/-!
# Access by name and by label

Whether a namespace may use an inventory depends on its name, and on its labels only where its name
does not settle it. `labelledGate` is the gate with the question for labels left to a condition:
asked wherever labels are needed, or always, it comes to the same verdict.
-/

namespace ControlPlane

namespace SelectorRequirement

variable {key : String} {values : List String} {labels : Dict String}

@[simp] theorem accepts_isIn : accepts ⟨key, .isIn, values⟩ labels = true ↔
    ∃ v, labels.get? key = some v ∧ v ∈ values :=
  accepts_iff

@[simp] theorem accepts_present : accepts ⟨key, .present, values⟩ labels = true ↔
    ∃ v, labels.get? key = some v :=
  accepts_iff

@[simp] theorem accepts_absent : accepts ⟨key, .absent, values⟩ labels = true ↔
    labels.get? key = none :=
  accepts_iff

/-- A label that is missing is in no list, so it is accepted where it must not be in one. -/
theorem accepts_notIn :
    accepts ⟨key, .notIn, values⟩ labels = !accepts ⟨key, .isIn, values⟩ labels := by
  unfold accepts SelectorOperator.accepts
  cases labels.get? key <;> rfl

end SelectorRequirement

namespace Controller

variable {σ : Type} {answer : (c : Step) → σ → c.Reply × σ} {a : Admission} {s s' : σ}

/-- The gate where `asks` tells of a policy whether labels are asked for. -/
def labelledGate (asks : EffectivePolicy → Bool) (a : Admission) :
    Controller (Except Obstacle String) := do
  match ← api (.getInventory a.inventoryNs a.inventoryName) with
  | none => return .error .missing
  | some i =>
    if !i.isReady then return .error .notReady
    let policies ← api (.listPolicies a.inventoryNs)
    let p := EffectivePolicy.resolve i (Policy.governing? policies)
    let labels ← if asks p then api (.namespaceLabels a.ns) else pure []
    match p.obstacle? a labels with
    | some o => return .error o
    | none => return .ok i.spec.providerRef.name

theorem labelledGate_needsLabels (a : Admission) :
    labelledGate (fun p => p.needsLabels a.inventoryNs a.ns) a = gate a := rfl

/-- Unless the question for labels fails, it makes no difference to the outcome that they were asked
for without need. -/
theorem runs_gate_of_labelledGate {t : List Event} {r : Except Error (Except Obstacle String)}
    (h : Runs answer (labelledGate (fun _ => true) a) s t r s')
    (ht : ∀ e, (⟨.api (.namespaceLabels a.ns), .error e⟩ : Event) ∉ t) :
    ∃ t s', Runs answer (gate a) s t r s' := by
  rw [← labelledGate_needsLabels]
  unfold labelledGate at h ⊢
  rcases h.bind_inv with ⟨_, hget, rfl⟩ | ⟨found, t₁, s₁, t₂, hget, hfound, rfl⟩
  · exact ⟨_, _, hget.bind_error⟩
  cases found with
  | none => exact ⟨_, _, hget.bind hfound⟩
  | some i =>
    cases hr : i.isReady with
    | false =>
      simp only [hr] at hfound
      refine ⟨t₁ ++ t₂, s', hget.bind ?_⟩
      simp only [hr]
      exact hfound
    | true =>
      simp only [hr] at hfound
      rcases hfound.bind_inv with ⟨_, hlist, rfl⟩ | ⟨policies, t₃, s₂, t₄, hlist, hlisted, rfl⟩
      · refine ⟨t₁ ++ t₂, s', hget.bind ?_⟩
        simp only [hr]
        exact hlist.bind_error
      cases hn : (EffectivePolicy.resolve i (Policy.governing? policies)).needsLabels
          a.inventoryNs a.ns with
      | true =>
        refine ⟨t₁ ++ (t₃ ++ t₄), s', hget.bind ?_⟩
        simp only [hr]
        refine hlist.bind ?_
        rw [hn]
        exact hlisted
      | false =>
        rcases hlisted.bind_inv with ⟨e, hask, -⟩ | ⟨labels, t₅, s₃, t₆, -, hasked, -⟩
        · obtain ⟨-, rfl⟩ := hask.api_inv
          exact (ht e (by simp)).elim
        obtain ⟨-, rfl, -⟩ := hasked.unique (runs_verdict _ _)
        refine ⟨t₁ ++ t₃, s₂, hget.bind ?_⟩
        simp only [hr]
        refine hlist.bind_nil ?_
        simp only [hn]
        rw [EffectivePolicy.obstacle_of_not_needsLabels hn labels []]
        exact runs_verdict _ _

end Controller

namespace EffectivePolicy

open Controller

/-- A namespace is admitted by its name or by its labels, and labels are asked for wherever they
decide: where they are not needed any other labels lead to the same decision, and the gate comes to
the same as if it always asked for them. -/
theorem access_decided (p : EffectivePolicy) (inventoryNs ns : String) (labels : Dict String) :
    (p.allows inventoryNs ns labels = true ↔
      inventoryNs = ns ∨
        (∃ names, p.connectionNamespaces = some names ∧ ("*" ∈ names ∨ ns ∈ names)) ∨
        ∃ selector, p.connectionNsSelector = some selector ∧ selector.accepts labels = true) ∧
    (∀ selector : NamespaceSelector,
      (selector.accepts labels = true ↔
        (∀ pairs, selector.matchLabels = some pairs →
          ∀ e ∈ pairs, labels.get? e.1 = some e.2) ∧
        ∀ r ∈ selector.matchExpressions, r.accepts labels = true) ∧
      (selector.isEmpty = true → selector.accepts labels = true)) ∧
    (∀ key values,
      (SelectorRequirement.accepts ⟨key, .isIn, values⟩ labels = true ↔
        ∃ v, labels.get? key = some v ∧ v ∈ values) ∧
      (SelectorRequirement.accepts ⟨key, .notIn, values⟩ labels =
        !SelectorRequirement.accepts ⟨key, .isIn, values⟩ labels) ∧
      (SelectorRequirement.accepts ⟨key, .present, values⟩ labels = true ↔
        ∃ v, labels.get? key = some v) ∧
      (SelectorRequirement.accepts ⟨key, .absent, values⟩ labels = true ↔
        labels.get? key = none)) ∧
    (p.needsLabels inventoryNs ns = false →
      p.allows inventoryNs ns [] = p.allows inventoryNs ns labels) ∧
    ∀ (σ : Type) (answer : (c : Step) → σ → c.Reply × σ) (a : Admission) (s s' : σ)
      (t : List Event) (r : Except Error (Except Obstacle String)),
      Runs answer (labelledGate (fun _ => true) a) s t r s' →
      (∀ e, (⟨.api (.namespaceLabels a.ns), .error e⟩ : Event) ∉ t) →
      ∃ t s', Runs answer (gate a) s t r s' := by
  refine ⟨?_, fun selector => ⟨?_, fun h => NamespaceSelector.accepts_of_isEmpty h labels⟩,
    fun key values => ⟨SelectorRequirement.accepts_isIn, SelectorRequirement.accepts_notIn,
      SelectorRequirement.accepts_present, SelectorRequirement.accepts_absent⟩,
    fun h => allows_of_not_needsLabels h [] labels,
    fun σ answer a s s' t r h ht => runs_gate_of_labelledGate h ht⟩
  · simp only [NamespaceSelector.accepts_iff]
    exact allows_iff
  · rw [NamespaceSelector.accepts_iff]
    unfold NamespaceSelector.Selects
    simp only [SelectorRequirement.accepts_iff]
    cases selector.matchLabels <;> simp

/-- A namespace that is listed is admitted whatever its labels are, another one unless its labels
say that it is in production. -/
theorem access_decided_beside_production :
    let selector : NamespaceSelector := ⟨none, [⟨"env", .notIn, ["production"]⟩]⟩
    let p : EffectivePolicy := ⟨some ["team"], some selector, false⟩
    let stored : Json := .object
      [("metadata", .object [("name", .string "prod"), ("namespace", .string "dbaas")]),
        ("spec", .object [("connectionNamespaces", .array [.string "team"]),
          ("credentialsRef", .object [("name", .string "secret")]),
          ("providerRef", .object [("name", .string "crunchy")])]),
        ("status", .object [("conditions", .array [.object
          [("status", .string "True"), ("type", .string "Ready")]])])]
    let s : Simulation :=
      { cluster := { objects := fun c => if c = .facades .inventory then [stored] else [] } }
    p.needsLabels "dbaas" "team" = false ∧
      p.allows "dbaas" "team" [] = p.allows "dbaas" "team" [("env", "production")] ∧
      p.allows "dbaas" "other" [("env", "test")] = true ∧
      ¬ p.allows "dbaas" "other" [("env", "production")] = true ∧
      (NamespaceSelector.mk none []).accepts [("env", "production")] = true ∧
      ∃ t s', Runs Simulation.answer (gate ⟨.connection, "team", "dbaas", "prod"⟩) s t
        (.ok (.ok "crunchy")) s' := by
  intro selector p stored s
  have hneeds : p.needsLabels "dbaas" "team" = false := by decide
  obtain ⟨-, hselector, -, hsame, hgate⟩ :=
    access_decided p "dbaas" "team" [("env", "production")]
  obtain ⟨htest, -⟩ := access_decided p "dbaas" "other" [("env", "test")]
  obtain ⟨hproduction, -⟩ := access_decided p "dbaas" "other" [("env", "production")]
  refine ⟨hneeds, hsame hneeds, htest.2 (.inr (.inr ⟨selector, rfl, by decide⟩)), ?_,
    (hselector ⟨none, []⟩).2 rfl, ?_⟩
  · rw [hproduction]
    rintro (h | ⟨names, h, hnames⟩ | ⟨_, h, hselected⟩)
    · exact absurd h (by decide)
    · cases h
      exact absurd hnames (by decide)
    · cases h
      exact absurd hselected (by decide)
  · let i : Inventory := ⟨⟨{ name := some "prod", ns := some "dbaas" },
      ⟨⟨"crunchy"⟩, ⟨"secret"⟩, none, ⟨none, some ["team"], none⟩⟩⟩,
      some ⟨[⟨"Ready", .holds, "", "", none⟩], ⟨[]⟩⟩⟩
    let t : List Event := [⟨.api (.getInventory "dbaas" "prod"), .ok (some i)⟩,
      ⟨.api (.listPolicies "dbaas"), .ok []⟩, ⟨.api (.namespaceLabels "team"), .ok []⟩]
    let s₁ := (Simulation.answer (.api (.getInventory "dbaas" "prod")) s).2
    let s₂ := (Simulation.answer (.api (.listPolicies "dbaas")) s₁).2
    let s₃ := (Simulation.answer (.api (.namespaceLabels "team")) s₂).2
    have hget : Simulation.answer (.api (.getInventory "dbaas" "prod")) s = (.ok (some i), s₁) :=
      rfl
    have hlist : Simulation.answer (.api (.listPolicies "dbaas")) s₁ = (.ok [], s₂) := rfl
    have hlabels : Simulation.answer (.api (.namespaceLabels "team")) s₂ = (.ok [], s₃) := rfl
    have hrun : Runs Simulation.answer
        (labelledGate (fun _ => true) ⟨.connection, "team", "dbaas", "prod"⟩) s t
        (.ok (.ok "crunchy")) s₃ :=
      .bind (.api hget) (.bind (.api hlist) (.bind_nil (.api hlabels) .pure))
    exact hgate _ _ _ _ _ t _ hrun (by simp [t])

end EffectivePolicy

end ControlPlane
