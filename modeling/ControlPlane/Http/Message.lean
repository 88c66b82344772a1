import ControlPlane.Json.Reader

/-!
# Requests and responses

A request goes to a path of the API server. Names stand in the path as they are, so that a name may
make it unusable or cut it short; parameters are encoded.
-/

namespace ControlPlane.Http

inductive Method where
  | get
  | post
  | put
  | patch
  | delete
deriving DecidableEq, Inhabited

def Method.name : Method → String
  | get => "GET"
  | post => "POST"
  | put => "PUT"
  | patch => "PATCH"
  | delete => "DELETE"

structure Request where
  method : Method
  /-- The path and the parameters. -/
  uri : String
  contentType : Option String
  body : Option String

/-- What the body of a request says; null when there is none. -/
def Request.content (r : Request) : Json :=
  (r.body.bind fun text => (Json.parse text).toOption).getD .null

structure Response where
  status : Nat
  body : String
deriving Inhabited

def upperHexDigit (n : Nat) : Char := "0123456789ABCDEF".toList.getD n '0'

/-- A byte of a parameter: letters, digits and `*-._` stand for themselves, a blank is written as a
plus sign and any other byte by its two digits. -/
def encodeByte (b : UInt8) : List Char :=
  let c := Char.ofNat b.toNat
  if b < 128 && (c.isAlphanum || "*-._".toList.contains c) then [c]
  else if c = ' ' then ['+']
  else ['%', upperHexDigit (b.toNat / 16), upperHexDigit (b.toNat % 16)]

def encodeParameter (s : String) : String :=
  String.ofList (s.toUTF8.toList.flatMap encodeByte)

/-- A path with parameters, each after an ampersand. -/
def withParameters (path : String) (parameters : List (String × String)) : String :=
  parameters.foldl (fun uri p => s!"{uri}&{encodeParameter p.1}={encodeParameter p.2}")
    (path ++ "?")

/-- Whether a character may stand in a path. All beyond ASCII may. -/
def isPathChar (c : Char) : Bool :=
  32 < c.toNat && !("#<>?`".toList.contains c)

/-- Whether a character may stand among the parameters. -/
def isQueryChar (c : Char) : Bool :=
  32 < c.toNat && !("\"#<>".toList.contains c)

/-- What of a path and its parameters is sent: everything before the first `#`, and nothing when
there is a character that may not be. -/
def usable (inQuery : Bool) : List Char → Option (List Char)
  | [] => some []
  | c :: rest =>
    if c = '#' then some []
    else if c = '?' && !inQuery then (usable true rest).map (c :: ·)
    else if if inQuery then isQueryChar c else isPathChar c then
      (usable inQuery rest).map (c :: ·)
    else none

/-- The greatest length of a path with its parameters, in bytes. -/
def maxUriBytes : Nat := 65534

def usableUri? (uri : String) : Option String :=
  if maxUriBytes < uri.utf8ByteSize then none else (usable false uri.toList).map String.ofList

/-- A request as it is sent, if its path can be used. -/
def Request.sendable? (r : Request) : Option Request :=
  (usableUri? r.uri).map fun uri => { r with uri }

/-- The meaning of the status of a refusal. -/
def statusReason : Nat → String
  | 400 => "Bad Request"
  | 401 => "Unauthorized"
  | 402 => "Payment Required"
  | 403 => "Forbidden"
  | 404 => "Not Found"
  | 405 => "Method Not Allowed"
  | 406 => "Not Acceptable"
  | 407 => "Proxy Authentication Required"
  | 408 => "Request Timeout"
  | 409 => "Conflict"
  | 410 => "Gone"
  | 411 => "Length Required"
  | 412 => "Precondition Failed"
  | 413 => "Payload Too Large"
  | 414 => "URI Too Long"
  | 415 => "Unsupported Media Type"
  | 416 => "Range Not Satisfiable"
  | 417 => "Expectation Failed"
  | 418 => "I'm a teapot"
  | 421 => "Misdirected Request"
  | 422 => "Unprocessable Entity"
  | 423 => "Locked"
  | 424 => "Failed Dependency"
  | 425 => "Too Early"
  | 426 => "Upgrade Required"
  | 428 => "Precondition Required"
  | 429 => "Too Many Requests"
  | 431 => "Request Header Fields Too Large"
  | 451 => "Unavailable For Legal Reasons"
  | 500 => "Internal Server Error"
  | 501 => "Not Implemented"
  | 502 => "Bad Gateway"
  | 503 => "Service Unavailable"
  | 504 => "Gateway Timeout"
  | 505 => "HTTP Version Not Supported"
  | 506 => "Variant Also Negotiates"
  | 507 => "Insufficient Storage"
  | 508 => "Loop Detected"
  | 510 => "Not Extended"
  | 511 => "Network Authentication Required"
  | _ => "<unknown status code>"

/-- A status with its meaning. -/
def statusText (status : Nat) : String := s!"{status} {statusReason status}"

/-- Whether a status tells of a refusal. -/
def isRefusal (status : Nat) : Bool := 400 ≤ status && status < 600

end ControlPlane.Http
