import ControlPlane.Controller.Grants
import ControlPlane.Proofs.Access.Viewer
import ControlPlane.Proofs.Controller.Basic

/-!
# Converging the artifacts of one object

What is done to bring about the role of an object and its binding, once both are made: the rules are
such as the check lets pass, and all calls are for the one name that the artifacts have. Which
objects these are is found out by asking alone.
-/

namespace ControlPlane

variable {v : ViewedObject} {subjects : SubjectSet} {role : Role} {binding : RoleBinding}

namespace ViewedObject

/-- Writes the role, unless `found` has its rules. -/
def settleRole (v : ViewedObject) (role : Role) : Option Role → Controller Bool
  | none => do
    Controller.api (.createRole v.scope role)
    return true
  | some found => do
    if found.rules.getD [] ≠ v.rules then
      Controller.api (.patchRules v.scope v.roleName found.metadata.resourceVersion v.rules)
    return true

/-- Writes the binding, unless `found` gives the role to the subjects. -/
def settleBinding (v : ViewedObject) (subjects : SubjectSet) (binding : RoleBinding) :
    Option RoleBinding → Controller Unit
  | none => Controller.api (.createBinding v.scope binding)
  | some found => do
    if found.roleRef ≠ v.roleRef then
      Controller.api (.deleteBinding v.scope v.roleName)
      Controller.api (.createBinding v.scope binding)
    else if found.subjects.getD [] ≠ subjects.toBindings then
      Controller.api (.patchSubjects v.scope v.roleName found.metadata.resourceVersion
        subjects.toBindings)

end ViewedObject

namespace Controller

theorem convergeRole_eq (h : v.role = .ok role) : convergeRole v.scope role = (do
    let found ← api (.getRole v.scope v.roleName)
    v.settleRole role found) := by
  obtain ⟨owner, -, rfl⟩ := ViewedObject.role_eq_ok.1 h
  refine congrArg (bind _) (funext fun found => ?_)
  cases found <;> rfl

theorem convergeBinding_eq (h : v.binding subjects = .ok binding) :
    convergeBinding v.scope binding = (do
      let found ← api (.getBinding v.scope v.roleName)
      v.settleBinding subjects binding found) := by
  obtain ⟨owner, -, rfl⟩ := ViewedObject.binding_eq_ok.1 h
  refine congrArg (bind _) (funext fun found => ?_)
  cases found <;> rfl

theorem establish_eq (g : Grant) : establish g = (do
    let role ← g.viewed.role
    let binding ← g.viewed.binding g.subjects
    let done ← unlessConflict (converge g.viewed.scope role binding)
    pure done.isSome) := rfl

/-- Where role and binding are known, they are brought about. -/
theorem establish_of_ok {g : Grant} {role : Role} {binding : RoleBinding}
    (hrole : g.viewed.role = .ok role) (hbinding : g.viewed.binding g.subjects = .ok binding) :
    establish g = (do
      let done ← unlessConflict (converge g.viewed.scope role binding)
      pure done.isSome) := by
  rw [establish_eq, hrole, hbinding]
  rfl

end Controller

/-- The steps that are taken to bring about the role of the object and its binding. -/
inductive ViewedObject.Performs (v : ViewedObject) (subjects : SubjectSet) : Step → Prop
  | getRole : Performs v subjects (.api (.getRole v.scope v.roleName))
  | createRole {role : Role} (h : v.role = .ok role) :
    Performs v subjects (.api (.createRole v.scope role))
  | patchRules (version : Option String) :
    Performs v subjects (.api (.patchRules v.scope v.roleName version v.rules))
  | getBinding : Performs v subjects (.api (.getBinding v.scope v.roleName))
  | createBinding {binding : RoleBinding} (h : v.binding subjects = .ok binding) :
    Performs v subjects (.api (.createBinding v.scope binding))
  | deleteBinding : Performs v subjects (.api (.deleteBinding v.scope v.roleName))
  | patchSubjects (version : Option String) :
    Performs v subjects (.api (.patchSubjects v.scope v.roleName version subjects.toBindings))

namespace Controller

theorem converge_performs (hrole : v.role = .ok role) (hbinding : v.binding subjects = .ok binding) :
    Only (v.Performs subjects) (converge v.scope role binding) := by
  have hconvergeRole : Only (v.Performs subjects) (convergeRole v.scope role) := by
    rw [convergeRole_eq hrole]
    refine .bind (.api .getRole) fun found => ?_
    cases found with
    | none => exact .bind (.api (.createRole hrole)) fun _ => .pure
    | some r => exact .ite (.bind (.api (.patchRules _)) fun _ => .pure) .pure
  have hconvergeBinding : Only (v.Performs subjects) (convergeBinding v.scope binding) := by
    rw [convergeBinding_eq hbinding]
    refine .bind (.api .getBinding) fun found => ?_
    cases found with
    | none => exact .api (.createBinding hbinding)
    | some b =>
      exact .ite (.bind (.api .deleteBinding) fun _ => .api (.createBinding hbinding))
        (.ite (.api (.patchSubjects _)) .pure)
  exact .bind hconvergeRole fun _ => .ite hconvergeBinding .pure

theorem establish_performs (g : Grant) : Only (g.viewed.Performs g.subjects) (establish g) := by
  rw [establish_eq]
  cases hrole : g.viewed.role with
  | error e => exact .throw
  | ok role =>
    cases hbinding : g.viewed.binding g.subjects with
    | error e => exact .throw
    | ok binding =>
      show Only _ (do
        let done ← unlessConflict (converge g.viewed.scope role binding)
        pure done.isSome)
      exact .bind (.unlessConflict (converge_performs hrole hbinding)) fun _ => .pure

end Controller

/-! ## Asking which grants there should be -/

/-- Asks for the objects that the grants of a namespace are for, or reviews who may do something. -/
def Step.IsGrantQuestion (ns : String) : Step → Prop
  | .api (.listInventories ns') | .api (.listTenants ns') => ns' = ns
  | .api (.review _) => True
  | _ => False

namespace Controller

theorem addReaders_only (ns : String) (inventories : List Inventory) (subjects : SubjectSet) :
    Only (Step.IsGrantQuestion ns) (addReaders ns inventories subjects) := by
  induction inventories generalizing subjects with
  | nil => exact .pure
  | cons i rest ih => exact .bind (.api trivial) fun readers => ih (subjects.union readers)

theorem tenantViewers_only (ns : String) (inventories : List Inventory) :
    Only (Step.IsGrantQuestion ns) (tenantViewers ns inventories) := by
  refine .bind (.bind (.api trivial) fun _ => .bind (.api trivial) fun _ => .pure) fun _ => ?_
  refine .bind (.bind (.api trivial) fun _ => addReaders_only _ _ _) fun _ => ?_
  exact .bind (.api trivial) fun _ => .pure

theorem grants_only (ns : String) : Only (Step.IsGrantQuestion ns) (grants ns) := by
  refine .bind (.api rfl) fun inventories => .bind (.api rfl) fun tenants => ?_
  refine .ite (.bind .pure fun _ => .pure) ?_
  exact .bind (tenantViewers_only ns inventories) fun _ => .pure

end Controller

end ControlPlane
