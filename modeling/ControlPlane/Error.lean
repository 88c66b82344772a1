import ControlPlane.Text.Quoted

/-!
# Errors

What keeps a reconciliation from finishing. `Error.isRetryable` says whether trying again can help
without a change by the user: it can unless the API server refused the request for good, an object
is unusable or a value cannot be read.
-/

namespace ControlPlane

/-- A refusal by the API server. -/
structure ApiError where
  status : String
  message : String
  reason : String
  code : Nat
deriving DecidableEq, Inhabited

def ApiError.text (e : ApiError) : String :=
  let q := Text.quoted
  s!"ApiError: {e.message}: {e.reason} (ErrorResponse \x7b status: {q e.status}, " ++
    s!"message: {q e.message}, reason: {q e.reason}, code: {e.code} \x7d)"

/-- What can go wrong between the control plane and the API server. -/
inductive ClusterError where
  | api (error : ApiError)
  /-- A kind or a group that is looked for is not served. -/
  | discovery (message : String)
  | lineTooLong
  /-- An answer is not of the form that was expected. -/
  | badAnswer (message : String)
  /-- A request cannot be built. -/
  | badRequest (message : String)
  /-- A path cannot be requested. -/
  | unusablePath (message : String)
deriving DecidableEq

def ClusterError.text : ClusterError → String
  | .api e => e.text
  | .discovery message => s!"Error from discovery: {message}"
  | .lineTooLong => "Error finding newline character"
  | .badAnswer message => s!"Error deserializing response: {message}"
  | .badRequest message => s!"Failed to build request: {message}"
  | .unusablePath message => s!"HttpError: {message}"

inductive Error where
  | cluster (cause : ClusterError)
  /-- The object `resource` cannot be used as it is. -/
  | validation (resource message : String)
  /-- A value, of an object of this kind if it is known, cannot be read. -/
  | serialization (message : String) (kind : Option String)
  | providerNotFound (provider resource : String)
  | inventoryNotFound (name ns : String)
  | internal (message context : String)
deriving DecidableEq

namespace Error

def message : Error → String
  | .cluster cause => s!"kubernetes error: {cause.text}"
  | .validation resource message => s!"validation error for {resource}: {message}"
  | .serialization message _ => s!"serialization error: {message}"
  | .providerNotFound provider resource =>
    s!"provider {provider} referenced by {resource} is not registered"
  | .inventoryNotFound name ns => s!"inventory {ns}/{name} not found"
  | .internal message context => s!"internal error [{context}]: {message}"

/-- The status code of a refusal by the API server. -/
def code? : Error → Option Nat
  | .cluster (.api e) => some e.code
  | _ => none

/-- The object changed under a write, or another one was created in its place. -/
def isConflict (e : Error) : Bool := e.code? = some 409

def isNotFound (e : Error) : Bool := e.code? = some 404

def isRetryable : Error → Bool
  | .cluster (.api e) => e.code = 409 || !(400 ≤ e.code && e.code < 500)
  | .cluster _ => true
  | .validation _ _ => false
  | .serialization _ _ => false
  | .providerNotFound _ _ => true
  | .inventoryNotFound _ _ => true
  | .internal _ _ => true

/-- The context of an internal error that names none. -/
def unknownContext : String := "unknown"

end Error

end ControlPlane
