import ControlPlane.Json.Basic

/-!
# Merge patches

`Json.applyPatch` applies an RFC 7386 merge patch: null members are removed, objects are merged
member by member, and any other value replaces what was there. `Json.mergePatch` is the patch that
turns one value into another; it names only members that differ.
-/

namespace ControlPlane.Json

mutual

/-- The value `target` with the patch applied. -/
def applyPatch : (patch target : Json) → Json
  | .object members, target => .object (applyMembers members (target.asObject?.getD []))
  | patch, _ => patch

/-- Applies the members of a patch one after the other. -/
def applyMembers : (patch : List (String × Json)) → (target : Dict Json) → Dict Json
  | [], target => target
  | (k, .null) :: rest, target => applyMembers rest (target.erase k)
  | (k, v) :: rest, target =>
    applyMembers rest (target.insert k (v.applyPatch ((target.get? k).getD .null)))

end

/-- The members of `stored` that `desired` does not have, each to be removed. -/
def removedMembers (stored desired : Dict Json) : Dict Json :=
  (stored.filter fun e => !desired.contains e.1).map fun e => (e.1, .null)

mutual

/-- The patch that turns `stored` into `desired`. -/
def mergePatch (stored : Json) : (desired : Json) → Json
  | .object desired =>
    match stored with
    | .object stored =>
      .object (changedMembers stored desired (removedMembers stored desired))
    | _ => .object desired
  | desired => desired

/-- Adds to `patch` what differs in the members `desired`. -/
def changedMembers (stored : Dict Json) : (desired : List (String × Json)) → (patch : Dict Json) →
    Dict Json
  | [], patch => patch
  | (k, v) :: rest, patch =>
    changedMembers stored rest <|
      match stored.get? k with
      | some prior => if prior.same v then patch else patch.insert k (mergePatch prior v)
      | none => patch.insert k v

end

end ControlPlane.Json
