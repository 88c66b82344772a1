import ControlPlane.ApiResource
import ControlPlane.Error
import ControlPlane.Http.Message
import ControlPlane.Json.Printer
import ControlPlane.Json.Reader
import ControlPlane.Program

/-!
# The operations of the API server

Getting, listing, creating, replacing, patching and deleting objects by requests. A request that
cannot be built is not sent. A refusal is an error with what the server says about it, and any other
answer has to be of the form that is expected.
-/

namespace ControlPlane

/-- Natural numbers of a number of bits. -/
def Codec.natural (bits : Nat) : Codec Nat where
  decode _ d :=
    match d with
    | .number (.integer n) =>
      if 0 ≤ n ∧ n.toNat < 1 <<< bits then .ok n.toNat else d.invalidValue s!"u{bits}"
    | d => d.invalidType s!"u{bits}"
  encode := .ofNat
  schema := Codec.typed "integer"

def ApiError.codec : Codec ApiError :=
  Record.codec "ErrorResponse" "" <|
    ApiError.mk
      <$> .required "status" .string (·.status) ""
      <*> .defaulted "message" .string "" (·.message) ""
      <*> .defaulted "reason" .string "" (·.reason) ""
      <*> .required "code" (.natural 16) (·.code) ""

namespace Http

/-- One of the causes that a report lists. -/
structure ReportCause where
  reason : String
  message : String
  field : String
deriving Inhabited

def ReportCause.codec : Codec ReportCause :=
  Record.codec "StatusCause" "" <|
    ReportCause.mk
      <$> .defaulted "reason" .string "" (·.reason) ""
      <*> .defaulted "message" .string "" (·.message) ""
      <*> .defaulted "field" .string "" (·.field) ""

/-- What a report is about. -/
structure ReportDetails where
  name : String
  group : String
  kind : String
  uid : String
  causes : List ReportCause
  retryAfterSeconds : Nat
deriving Inhabited

def ReportDetails.codec : Codec ReportDetails :=
  Record.codec "StatusDetails" "" <|
    ReportDetails.mk
      <$> .defaulted "name" .string "" (·.name) ""
      <*> .defaulted "group" .string "" (·.group) ""
      <*> .defaulted "kind" .string "" (·.kind) ""
      <*> .defaulted "uid" .string "" (·.uid) ""
      <*> .defaulted "causes" (.list ReportCause.codec) [] (·.causes) ""
      <*> .defaulted "retryAfterSeconds" (.natural 32) 0 (·.retryAfterSeconds) ""

/-- What the server reports on an operation. -/
structure Report where
  success : Option Bool
  code : Nat
  message : String
  reason : String
  details : Option ReportDetails
deriving Inhabited

def Report.codec : Codec Report :=
  Record.codec "Status" "" <|
    Report.mk
      <$> .optional "status" summary (·.success) ""
      <*> .defaulted "code" (.natural 16) 0 (·.code) ""
      <*> .defaulted "message" .string "" (·.message) ""
      <*> .defaulted "reason" .string "" (·.reason) ""
      <*> .optional "details" ReportDetails.codec (·.details) ""
where
  summary : Codec Bool :=
    .enumeration [("Success", true), ("Failure", false)] fun b => if b then "Success" else "Failure"

/-- Requests and what is found by them. -/
abbrev Exchange (α : Type) := ExceptT ClusterError (Program Request fun _ => Response) α

/-- What is known about a listing besides its objects. -/
structure ListMetadata where
  continueToken : Option String
  remainingItemCount : Option Int
  resourceVersion : Option String
  selfLink : Option String
deriving Inhabited

def ListMetadata.codec : Codec ListMetadata :=
  Record.objectCodec "ListMeta" "" <|
    ListMetadata.mk
      <$> .optional "continue" .string (·.continueToken) ""
      <*> .optional "remainingItemCount" .int64 (·.remainingItemCount) ""
      <*> .optional "resourceVersion" .string (·.resourceVersion) ""
      <*> .optional "selfLink" .string (·.selfLink) ""

structure Listing (α : Type) where
  metadata : ListMetadata
  items : List α

/-- The items have to be there, but may be null. -/
def Listing.codec {α : Type} (c : Codec α) : Codec (Listing α) :=
  Record.gatheringCodec "struct ObjectList" "" <|
    Listing.mk
      <$> .required "metadata" ListMetadata.codec (·.metadata) ""
      <*> .member "items" c.list.schema
        (fun o d => (c.list.option.decode o d).map (·.getD [])) none none
        fun l => some (c.list.encode l.items)

namespace Exchange

variable {α : Type}

def fail (e : ClusterError) : Exchange α := ExceptT.mk (pure (.error e))

/-- Sends a request; one whose path cannot be used is not sent. -/
def send (r : Request) : Exchange Response :=
  match r.sendable? with
  | none => fail (.badRequest "failed to build request: invalid uri character")
  | some r => ExceptT.lift (Program.ask r)

/-- The error that a refusal tells of. -/
def refusal (r : Response) : ApiError :=
  match ApiError.codec.readText r.body with
  | .ok e => e
  | .error _ =>
    { status := statusText r.status, message := Text.quoted r.body
      reason := "Failed to parse error data", code := r.status }

/-- The body of an answer that is no refusal. -/
def accepted (r : Response) : Except ClusterError String :=
  if isRefusal r.status then .error (.api (refusal r)) else .ok r.body

/-- Reads an answer from its text. -/
def readAnswer (c : Codec α) (text : String) : Except ClusterError α :=
  (c.readText text).mapError .badAnswer

/-- Sends a request and reads the answer. -/
def fetch (c : Codec α) (r : Request) : Exchange α := do
  let response ← send r
  let body ← accepted response
  readAnswer c body

end Exchange

/-- A kind of objects, in one namespace or in all of them. -/
structure Endpoint where
  resource : ApiResource
  ns : Option String

namespace Endpoint

variable {α : Type}

/-- The path of the objects. -/
def path (e : Endpoint) : String :=
  let root := if e.resource.group.isEmpty then "/api" else "/apis"
  let place :=
    match e.ns with
    | some ns => s!"namespaces/{ns}/"
    | none => ""
  s!"{root}/{e.resource.apiVersion}/{place}{e.resource.plural}"

/-- A request that is not valid. -/
def invalid (message : String) : ClusterError :=
  .badRequest s!"failed to validate request: {message}"

/-- The path of one object, which has to have a name. -/
def objectPath (e : Endpoint) (name : String) : Except ClusterError String :=
  if name.isEmpty then .error (invalid "A non-empty name is required.")
  else .ok s!"{e.path}/{name}"

def jsonType : String := "application/json"

/-- The greatest length of the name of a writer, in bytes. -/
def maxManagerBytes : Nat := 128

/-- Refuses the name of a writer that is too long; `parameters` is where it stands. -/
def checkManager (parameters manager : String) : Except ClusterError Unit :=
  if maxManagerBytes < manager.utf8ByteSize then
    .error (invalid s!"Failed to validate {parameters}::field_manager!")
  else .ok ()

def managerParameter (manager : String) : String × String := ("fieldManager", manager)

def get (e : Endpoint) (c : Codec α) (name : String) : Exchange α := do
  let uri ← e.objectPath name
  Exchange.fetch c { method := .get, uri, contentType := none, body := none }

/-- The object, and none when the reason of the refusal is that it is not there. -/
def get? (e : Endpoint) (c : Codec α) (name : String) : Exchange (Option α) :=
  tryCatch (some <$> e.get c name) fun
    | .api a => if a.reason = "NotFound" then pure none else throw (.api a)
    | other => throw other

/-- The request for a listing. -/
def listRequest (e : Endpoint) (parameters : List (String × String)) : Request where
  method := .get
  uri := withParameters e.path parameters
  contentType := none
  body := none

/-- The objects that fit a selector, if one is given. -/
def list (e : Endpoint) (c : Codec α) (selector : Option String) : Exchange (List α) := do
  let request := e.listRequest (selector.toList.map fun s => ("fieldSelector", s))
  let listing ← Exchange.fetch (Listing.codec c) request
  return listing.items

/-- Creates an object; `manager` is the name of the writer, if it gives one. -/
def create (e : Endpoint) (c : Codec α) (manager : Option String) (body : Json) : Exchange α := do
  if let some m := manager then checkManager "PostParams" m
  let uri := withParameters e.path (manager.toList.map managerParameter)
  Exchange.fetch c { method := .post, uri, contentType := some jsonType, body := some body.text }

def replace (e : Endpoint) (c : Codec α) (manager name : String) (body : Json) : Exchange α := do
  let path ← e.objectPath name
  let uri := withParameters path [managerParameter manager]
  Exchange.fetch c { method := .put, uri, contentType := some jsonType, body := some body.text }

/-- A patch as it is sent. -/
structure Patch where
  contentType : String
  body : Json
  parameters : List (String × String) := []

/-- A patch to be merged into an object that has this version. -/
def Patch.merge (version : Option String) (key : String) (value : Json) : Patch where
  contentType := "application/merge-patch+json"
  body := .ofMembers
    [("metadata", .ofMembers [("resourceVersion", Json.ofOption .string version)]), (key, value)]

/-- The whole of what the writer wants an object to hold, whoever wrote it before. -/
def Patch.apply (body : Json) : Patch where
  contentType := "application/apply-patch+yaml"
  body := body
  parameters := [("force", "true")]

/-- Patches an object, or a part of it that has a path of its own. -/
def patch (e : Endpoint) (c : Codec α) (manager name part : String) (p : Patch) : Exchange α := do
  let path ← e.objectPath name
  checkManager "PatchParams" manager
  let uri := withParameters (path ++ part) (p.parameters ++ [managerParameter manager])
  Exchange.fetch c
    { method := .patch, uri, contentType := some p.contentType, body := some p.body.text }

/-- A deletion is answered by the object or by a report. -/
def deletion (c : Codec α) : Codec Unit where
  decode o d := do
    let j ← d.value.mapError (·.message)
    if j.text? "kind" = some "Status" then (Report.codec.decode o d).map fun _ => ()
    else (c.decode o d).map fun _ => ()
  encode _ := .object []
  schema := []

/-- Deletes an object; it is fine if there is none. -/
def delete (e : Endpoint) (c : Codec α) (name : String) : Exchange Unit := do
  let path ← e.objectPath name
  let request : Request :=
    { method := .delete, uri := withParameters path [], contentType := some jsonType
      body := some (Json.object []).text }
  tryCatch (Exchange.fetch (deletion c) request) fun
    | .api a => if a.code = 404 then pure () else throw (.api a)
    | other => throw other

end Endpoint

end Http

end ControlPlane
