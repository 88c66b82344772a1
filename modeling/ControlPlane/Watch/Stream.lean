import ControlPlane.Duration
import ControlPlane.Facade.Backend
import ControlPlane.Http.Client

/-!
# Watching a kind

A watch first lists the objects of a kind, page by page, and then follows their changes from the
version of the listing. A failure among the changes does not end the watch, which goes on with what
follows in the same response. When a response ends, the watch is taken up again from the last
version that was seen; the objects are listed anew when the server no longer knows that version.

The watch pauses after each failure, the longer the more of them there were in a row.
`Watcher.trace` tells what is requested, which objects are seen and where the watch pauses, in their
order, when the server answers with given responses.
-/

namespace ControlPlane

open Http

/-- A response whose body may stay open after what is in it. -/
structure StreamResponse where
  response : Response
  staysOpen : Bool

inductive WatchStage where
  /-- The objects are listed, from the page that a token stands for. -/
  | list (token : Option String)
  /-- The changes since a version are followed, after so many failures in a row. -/
  | follow (version : String) (failures : Nat)

namespace WatchStage

def start : WatchStage := list none

end WatchStage

/-- A line of a response that is followed. -/
inductive WatchLine where
  /-- An object was created, changed or deleted. -/
  | object (o : GenericObject)
  /-- There was no change up to a version. -/
  | bookmark (version : String)
  | failure (error : ApiError)
  /-- Whatever else is written there. -/
  | unknown

namespace WatchLine

/-- The metadata of a bookmark. -/
structure BookmarkMetadata where
  resourceVersion : String
  annotations : Dict String

def BookmarkMetadata.codec : Codec BookmarkMetadata :=
  Record.codec "BookmarkMeta" "" <|
    BookmarkMetadata.mk
      <$> .required "resourceVersion" .string (·.resourceVersion) ""
      <*> .defaulted "annotations" Codec.string.dict [] (·.annotations) ""

structure Bookmark where
  apiVersion : String
  kind : String
  metadata : BookmarkMetadata

def Bookmark.codec : Codec Bookmark :=
  Record.gatheringCodec "struct Bookmark" "" <|
    Bookmark.mk
      <$> .required "apiVersion" .string (·.apiVersion) ""
      <*> .required "kind" .string (·.kind) ""
      <*> .required "metadata" BookmarkMetadata.codec (·.metadata) ""

/-- What the content of a line is. -/
inductive Content where
  | object
  | bookmark
  | failure

def Content.codec : Codec Content :=
  .enumeration
    [("ADDED", .object), ("MODIFIED", .object), ("DELETED", .object), ("BOOKMARK", .bookmark),
      ("ERROR", .failure)]
    fun
      | .object => "MODIFIED"
      | .bookmark => "BOOKMARK"
      | .failure => "ERROR"

def ofContent (o : Origin) (type content : Document) : Except String WatchLine := do
  match ← Content.codec.decode .direct type with
  | .object => object <$> GenericObject.codec.decode o content
  | .bookmark => (fun b => bookmark b.metadata.resourceVersion) <$> Bookmark.codec.decode o content
  | .failure => failure <$> ApiError.codec.decode o content

/-- A line holds its type and its content. Content that comes first is set aside until the type is
known. -/
def ofDocument? (d : Document) : Option WatchLine :=
  match d with
  | .array [type, content] => (ofContent .direct type content).toOption
  | .object members =>
    match members.filter fun e => e.1 = "type" || e.1 = "object" with
    | [("type", type), ("object", content)] => (ofContent .direct type content).toOption
    | [("object", content), ("type", type)] => do
      let _ ← content.value.toOption
      (ofContent .buffered type content).toOption
    | _ => none
  | _ => none

/-- What a line says. An incomplete line, and so an empty one, says nothing. -/
def parse? (line : String) : Option WatchLine :=
  match Document.parse line with
  | .ok d => some ((ofDocument? d).getD unknown)
  | .error e => if e.fault.isEnd then none else some unknown

end WatchLine

/-- What happens while a kind is watched. -/
inductive WatchHappening where
  | request (r : Request)
  /-- An object was created, changed, deleted or listed. -/
  | object (o : GenericObject)
  /-- Nothing happens for a while. -/
  | pause (d : Duration)

/-- What comes of a response. -/
structure WatchProgress where
  happenings : List WatchHappening
  stage : WatchStage
  /-- Whether the response has ended as far as the watch is concerned. -/
  isOver : Bool

namespace WatchProgress

/-- What comes of a response in which something happens first. -/
def after (h : WatchHappening) (p : WatchProgress) : WatchProgress :=
  { p with happenings := h :: p.happenings }

end WatchProgress

/-- The watch of a kind in all namespaces. -/
structure Watcher where
  resource : ApiResource
  timeoutSeconds : Nat

namespace Watcher

def endpoint (w : Watcher) : Endpoint := ⟨w.resource, none⟩

/-- The greatest number of objects on a page. -/
def pageSize : Nat := 500

/-- The time from which on a watch is not allowed any more. -/
def timeoutLimit : Nat := 295

/-- The request of a stage, if it can be made. -/
def request? (w : Watcher) : WatchStage → Option Request
  | .list token =>
    let next := token.toList.map fun t => ("continue", t)
    (w.endpoint.listRequest (("limit", toString pageSize) :: next)).sendable?
  | .follow version _ =>
    if w.timeoutSeconds < timeoutLimit then
      (w.endpoint.listRequest
        [("watch", "true"), ("timeoutSeconds", toString w.timeoutSeconds),
          ("allowWatchBookmarks", "true"), ("resourceVersion", version)]).sendable?
    else none

/-- The pause after a failure that follows so many others. It doubles from 0.8 to 30 seconds, and by
chance up to as much again is added; the average is taken. -/
def pauseAfter (failures : Nat) : WatchHappening :=
  .pause (.ofMillis (min (1200 <<< failures) 45000))

/-- A text that is not empty. -/
def filled (s : Option String) : Option String := s.filter fun s => !s.isEmpty

/-- What comes of a page. A page that cannot be read and a last page without a version make the
watch start again. -/
def listed (r : Response) : WatchProgress :=
  let page := do
    let body ← Exchange.accepted r
    Exchange.readAnswer (Listing.codec GenericObject.codec) body
  match page with
  | .error _ => ⟨[pauseAfter 0], .start, true⟩
  | .ok page =>
    let objects := page.items.map .object
    match filled page.metadata.continueToken, filled page.metadata.resourceVersion with
    | some token, _ => ⟨objects, .list (some token), true⟩
    | none, some version => ⟨objects, .follow version 0, true⟩
    | none, none => ⟨[pauseAfter 0], .start, true⟩

/-- The code of a version that the server no longer knows. -/
def goneCode : Nat := 410

/-- What comes of the lines of a response that is followed from a version, after so many failures in
a row. An object ends the row. An object without a version and a version that is gone make the watch
start again, and what follows them in the response is lost. -/
def followed (version : String) (failures : Nat) : List String → WatchProgress
  | [] => ⟨[], .follow version failures, false⟩
  | line :: rest =>
    match WatchLine.parse? line with
    | none => followed version failures rest
    | some (.object o) =>
      match filled o.metadata.resourceVersion with
      | none => ⟨[pauseAfter failures], .start, true⟩
      | some v => (followed v 0 rest).after (.object o)
    | some (.bookmark v) => followed v failures rest
    | some (.failure e) =>
      if e.code = goneCode then ⟨[pauseAfter failures], .start, true⟩
      else (followed version (failures + 1) rest).after (pauseAfter failures)
    | some .unknown => (followed version (failures + 1) rest).after (pauseAfter failures)

/-- The lines of a response. While it stays open its last line is not complete. -/
def lines (r : StreamResponse) : List String :=
  let lines := r.response.body.splitOn "\n"
  if r.staysOpen then lines.dropLast else lines

/-- What comes of a response to the request of a stage; a page counts only as a whole. -/
def progress (stage : WatchStage) (r : StreamResponse) : WatchProgress :=
  match stage with
  | .list token => if r.staysOpen then ⟨[], .list token, false⟩ else listed r.response
  | .follow version failures =>
    let p := followed version failures (lines r)
    { p with isOver := p.isOver || !r.staysOpen }

/-- What happens when the requests are answered by these responses. After a response that stays
open, after the last response and from a stage that cannot be requested on nothing happens. -/
def trace (w : Watcher) (stage : WatchStage) (responses : List StreamResponse) :
    List WatchHappening :=
  match w.request? stage, responses with
  | none, _ => []
  | some r, [] => [.request r]
  | some r, response :: rest =>
    let p := progress stage response
    .request r :: p.happenings ++ if p.isOver then w.trace p.stage rest else []

end Watcher

/-- What the watch of the backends of a kind of facades comes to. -/
structure WatchOutcome where
  requests : List Request
  /-- The facades that were found to own the objects. -/
  refs : List ObjectRef
  /-- Whether the watch has come to its end. -/
  hasEnded : Bool

namespace WatchOutcome

/-- The outcome when the facades are received until none has come for as long as `patience`, and
when nobody receives them for so long. A watch ends at the first facade that cannot be passed on.
`waited` is the time since the last facade. -/
def ofTrace (k : FacadeKind) (isReceived : Bool) (patience waited : Duration) :
    List WatchHappening → WatchOutcome
  | [] => ⟨[], [], false⟩
  | .request r :: rest =>
    let out := ofTrace k isReceived patience waited rest
    { out with requests := r :: out.requests }
  | .object o :: rest =>
    match Facade.owning? k o with
    | none => ofTrace k isReceived patience waited rest
    | some ref =>
      if isReceived then
        let out := ofTrace k isReceived patience ⟨0⟩ rest
        { out with refs := ref :: out.refs }
      else ⟨[], [], true⟩
  | .pause d :: rest =>
    let waited : Duration := ⟨waited.nanos + d.nanos⟩
    if patience.nanos ≤ waited.nanos then ⟨[], [], false⟩
    else ofTrace k isReceived patience waited rest

end WatchOutcome

end ControlPlane
