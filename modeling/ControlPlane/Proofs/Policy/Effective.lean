import ControlPlane.Policy.Governing

/-!
# The policy in force

What it means for labels to satisfy a selector, and for a namespace to be admitted by the policy in
force for an inventory. The checks that are computed decide just that.
-/

namespace ControlPlane

namespace SelectorRequirement

/-- The labels satisfy the requirement. -/
def Satisfied (r : SelectorRequirement) (labels : Dict String) : Prop :=
  match r.operator with
  | .isIn => ∃ v, labels.get? r.key = some v ∧ v ∈ r.values
  | .notIn => ∀ v, labels.get? r.key = some v → v ∉ r.values
  | .present => ∃ v, labels.get? r.key = some v
  | .absent => labels.get? r.key = none

theorem accepts_iff {r : SelectorRequirement} {labels : Dict String} :
    r.accepts labels = true ↔ r.Satisfied labels := by
  unfold accepts Satisfied SelectorOperator.accepts
  cases r.operator <;> cases labels.get? r.key <;> simp

end SelectorRequirement

namespace NamespaceSelector

/-- The labels have the values that the selector lists and satisfy all requirements. -/
def Selects (s : NamespaceSelector) (labels : Dict String) : Prop :=
  (∀ e ∈ s.matchLabels.getD [], labels.get? e.1 = some e.2) ∧
    ∀ r ∈ s.matchExpressions, r.Satisfied labels

theorem accepts_iff {s : NamespaceSelector} {labels : Dict String} :
    s.accepts labels = true ↔ s.Selects labels := by
  simp [accepts, Selects, SelectorRequirement.accepts_iff]

theorem accepts_of_isEmpty {s : NamespaceSelector} (h : s.isEmpty = true) (labels : Dict String) :
    s.accepts labels = true := by
  obtain ⟨hlabels, hexpressions⟩ := (Bool.and_eq_true _ _).mp h
  rw [List.isEmpty_iff] at hlabels hexpressions
  simp [accepts, hlabels, hexpressions]

end NamespaceSelector

namespace Inventory

/-- A policy field that is in force: that of the inventory if it is set there, else that of the
governing policy. -/
def inForce {α : Type} (i : Inventory) (governing : Option Policy)
    (field : PolicyFields → Option α) : Option α :=
  match field i.spec.policy, governing with
  | some a, _ => some a
  | none, some p => field p.spec.fields
  | none, none => none

/-- The namespace may use inventories of `inventoryNs` under what is in force: it is the same
namespace, or it is listed or all are, or its labels are selected. -/
def Admits (i : Inventory) (governing : Option Policy) (inventoryNs ns : String)
    (labels : Dict String) : Prop :=
  inventoryNs = ns ∨
    (∃ names, i.inForce governing (·.connectionNamespaces) = some names ∧
      ("*" ∈ names ∨ ns ∈ names)) ∨
    ∃ selector, i.inForce governing (·.connectionNsSelector) = some selector ∧
      selector.Selects labels

/-- New databases are not to be provisioned through the inventory. -/
def ForbidsProvisioning (i : Inventory) (governing : Option Policy) : Prop :=
  i.inForce governing (·.disableProvisions) = some true

end Inventory

namespace EffectivePolicy

theorem or_bind_eq_inForce {α : Type} (i : Inventory) (governing : Option Policy)
    (field : PolicyFields → Option α) :
    (field i.spec.policy).or ((governing.map (·.spec.fields)).bind field) =
      i.inForce governing field := by
  unfold Inventory.inForce
  cases field i.spec.policy <;> cases governing <;> rfl

theorem resolve_connectionNamespaces (i : Inventory) (governing : Option Policy) :
    (resolve i governing).connectionNamespaces =
      i.inForce governing (·.connectionNamespaces) :=
  or_bind_eq_inForce i governing _

theorem resolve_connectionNsSelector (i : Inventory) (governing : Option Policy) :
    (resolve i governing).connectionNsSelector =
      i.inForce governing (·.connectionNsSelector) :=
  or_bind_eq_inForce i governing _

theorem resolve_disableProvisions {i : Inventory} {governing : Option Policy} :
    (resolve i governing).disableProvisions = true ↔ i.ForbidsProvisioning governing := by
  show ((i.spec.policy.disableProvisions.or
    ((governing.map (·.spec.fields)).bind (·.disableProvisions))).getD false) = true ↔ _
  rw [or_bind_eq_inForce i governing (·.disableProvisions)]
  unfold Inventory.ForbidsProvisioning
  rcases i.inForce governing (·.disableProvisions) with _ | _ | _ <;> simp

/-- The shortcut for an empty selector agrees with asking for labels. -/
theorem allows_iff {p : EffectivePolicy} {inventoryNs ns : String} {labels : Dict String} :
    p.allows inventoryNs ns labels = true ↔
      inventoryNs = ns ∨
        (∃ names, p.connectionNamespaces = some names ∧ ("*" ∈ names ∨ ns ∈ names)) ∨
        ∃ selector, p.connectionNsSelector = some selector ∧ selector.Selects labels := by
  have hnames : ((p.connectionNamespaces.getD []).any fun n => n = allNamespaces || n = ns) =
      true ↔ ∃ names, p.connectionNamespaces = some names ∧ ("*" ∈ names ∨ ns ∈ names) := by
    cases p.connectionNamespaces with
    | none => simp
    | some names =>
      simp only [Option.getD_some, List.any_eq_true, Bool.or_eq_true, decide_eq_true_eq,
        Option.some.injEq, exists_eq_left']
      constructor
      · rintro ⟨n, hn, rfl | rfl⟩
        · exact .inl hn
        · exact .inr hn
      · rintro (hn | hn)
        · exact ⟨_, hn, .inl rfl⟩
        · exact ⟨_, hn, .inr rfl⟩
  rw [← hnames]
  simp only [allows, allowsByName, Bool.or_eq_true, decide_eq_true_eq, or_assoc]
  refine or_congr Iff.rfl (or_congr Iff.rfl ?_)
  cases p.connectionNsSelector with
  | none => simp
  | some s =>
    have hempty := fun h => NamespaceSelector.accepts_of_isEmpty (s := s) h labels
    simpa [← NamespaceSelector.accepts_iff] using hempty

theorem allows_resolve_iff {i : Inventory} {governing : Option Policy} {inventoryNs ns : String}
    {labels : Dict String} :
    (resolve i governing).allows inventoryNs ns labels = true ↔
      i.Admits governing inventoryNs ns labels := by
  rw [allows_iff, resolve_connectionNamespaces, resolve_connectionNsSelector]
  rfl

/-- Labels that need not be asked for make no difference. -/
theorem allows_of_not_needsLabels {p : EffectivePolicy} {inventoryNs ns : String}
    (h : p.needsLabels inventoryNs ns = false) (labels labels' : Dict String) :
    p.allows inventoryNs ns labels = p.allows inventoryNs ns labels' := by
  unfold needsLabels at h
  unfold allows
  cases hn : p.allowsByName inventoryNs ns with
  | true => simp
  | false =>
    have hs : p.connectionNsSelector = none := by simpa [hn] using h
    simp [hs]

end EffectivePolicy

end ControlPlane
