import ControlPlane.Controller.Basic
import ControlPlane.Policy.Governing

/-!
# Arbitration of policies

Whichever policy of a namespace is reconciled, the one that governs is found anew and every policy
of the namespace is told by its `Ready` condition whether it is the one.
-/

namespace ControlPlane.Policy

open Controller

/-- What a policy of a namespace reports when the one named `winner` governs. -/
def verdict (now : Instant) (ns winner : String) (p : Policy) : Condition :=
  if p.metadata.anyName = winner then
    .ready now .holds Reason.ready "policy is active for the namespace"
  else
    .ready now .fails Reason.activePolicyExists
      s!"policy {winner} is already active in namespace {ns}"

/-- Writes a status; false when the write met a conflict. A policy that is gone by now needs no
status. -/
def writeStatus (ns : String) (p : Policy) (s : PolicyStatus) : Controller Bool :=
  tryCatch
    (do
      api (.patchPolicyStatus ns p.metadata.anyName p.metadata.resourceVersion s)
      return true)
    fun e =>
      if e.isConflict then return false
      else if e.isNotFound then return true
      else throw e

/-- Tells each policy its verdict, where that changes its status; false when a write met a
conflict, which ends the round. -/
def announce (now : Instant) (ns winner : String) : List Policy → Controller Bool
  | [] => return true
  | p :: rest => do
    let (changed, s) := (p.status.getD default).setCondition (p.verdict now ns winner)
    let settled ← if changed then writeStatus ns p s else pure true
    if settled then announce now ns winner rest else return false

/-- The key by which failures of the policy are counted. -/
def key (p : Policy) : String := objectKey p.metadata.ns p.metadata.anyName

/-- Reconciles the policies of the namespace that a policy lives in. -/
def reconcile (interval : Duration) (now : Instant) (p : Policy) : Controller Action := do
  match p.metadata.ns with
  | none => throw (.validation p.metadata.anyName "DBaaSPolicy must be namespaced")
  | some ns =>
    let policies := sort (← api (.listPolicies ns))
    match governing? policies with
    | none => return .awaitChange
    | some winner =>
      if ← announce now ns winner.metadata.anyName policies then
        memory (.forgetFailures .policy p.key)
        return .requeue interval
      else return .requeue conflictPause

end ControlPlane.Policy
