import ControlPlane.Access.Viewer
import ControlPlane.Proofs.Except

/-!
# What viewer roles allow

The role of an object allows nothing but to get that object, so that its rules pass the check, and
the binding gives just this role.
-/

namespace ControlPlane

/-- The rule allows nothing but to get the object of this name. -/
structure AccessRule.ReadsOnly (r : AccessRule) (resources : List String) (name : String) :
    Prop where
  verbs : r.verbs = ["get"]
  apiGroups : r.apiGroups = some ["dbaas.dev"]
  resources : r.resources = some resources
  resourceNames : r.resourceNames = some [name]
  nonResourceUrls : r.nonResourceUrls = none

theorem AccessRule.readsOnly_read (resources : List String) (name : String) :
    (AccessRule.read resources name).ReadsOnly resources name := by
  constructor <;> rfl

/-! ## Names of roles -/

theorem eq_of_framed {before after a b : String}
    (h : before ++ a ++ after = before ++ b ++ after) : a = b := by
  simpa only [String.append_left_inj, String.append_right_inj] using h

theorem tenantRoleName_inj {a b : String} (h : tenantRoleName a = tenantRoleName b) : a = b :=
  eq_of_framed h

theorem inventoryRoleName_inj {a b : String} (h : inventoryRoleName a = inventoryRoleName b) :
    a = b :=
  eq_of_framed h

/-- An object that can own nothing is no conflict. -/
theorem Metadata.isConflict_of_ownerReference {m : Metadata} {version kind : String} {e : Error}
    (h : m.ownerReference version kind = .error e) : e.isConflict = false := by
  unfold ownerReference at h
  split at h
  · cases h
  · obtain rfl := Except.error.inj h
    rfl

namespace ViewedObject

variable {v : ViewedObject} {subjects : SubjectSet} {role : Role} {binding : RoleBinding}

theorem role_eq_ok : v.role = .ok role ↔ ∃ owner, v.owner = .ok owner ∧
    role = ⟨artifactMetadata v.artifactNs v.roleName owner, some v.rules⟩ := by
  refine Except.bind_eq_ok.trans ?_
  simp only [pure, Except.pure, Except.ok.injEq, eq_comm (b := role)]

theorem binding_eq_ok : v.binding subjects = .ok binding ↔ ∃ owner, v.owner = .ok owner ∧
    binding = ⟨artifactMetadata v.artifactNs v.roleName owner, v.roleRef,
      some subjects.toBindings⟩ := by
  refine Except.bind_eq_ok.trans ?_
  simp only [pure, Except.pure, Except.ok.injEq, eq_comm (b := binding)]

theorem isConflict_of_role {e : Error} (h : v.role = .error e) : e.isConflict = false := by
  cases howner : v.owner with
  | ok owner => simp [role, howner, bind, Except.bind, pure, Except.pure] at h
  | error e' =>
    simp only [role, howner, bind, Except.bind, Except.error.injEq] at h
    exact h ▸ Metadata.isConflict_of_ownerReference howner

theorem isConflict_of_binding {e : Error} (h : v.binding subjects = .error e) :
    e.isConflict = false := by
  cases howner : v.owner with
  | ok owner => simp [binding, howner, bind, Except.bind, pure, Except.pure] at h
  | error e' =>
    simp only [binding, howner, bind, Except.bind, Except.error.injEq] at h
    exact h ▸ Metadata.isConflict_of_ownerReference howner

/-- A list of rules that may be absent is that of the object only if it is there. -/
theorem rules_eq_of_getD {rules : Option (List AccessRule)} (h : rules.getD [] = v.rules) :
    rules = some v.rules := by
  cases rules with
  | none => cases h
  | some rules => exact congrArg some h

end ViewedObject

end ControlPlane
