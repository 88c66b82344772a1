import ControlPlane.Json.Printer
import ControlPlane.Json.Reader
import ControlPlane.Text.Quoted
import ControlPlane.Time.Rfc3339

/-!
# Codecs

A codec ties a type to its JSON form: it reads it, writes it and describes it to the API server.
Reading says in words what was found and what was expected. It starts from a document, so that it
sees what a text says twice and does not mind what it has no use for.
-/

namespace ControlPlane

/-- Where a value that is read comes from. A member of a flattened record is set aside, with the
others that its surroundings do not know, before it is read; this shows in a few messages. -/
inductive Origin where
  | direct
  | buffered
deriving DecidableEq

structure Codec (α : Type) where
  decode : Origin → Document → Except String α
  encode : α → Json
  /-- The members of the structural schema. -/
  schema : Dict Json

namespace Document

/-- What kind of value this is, for a message. -/
def described : Document → String
  | .null => "null"
  | .bool b => s!"boolean `{b}`"
  | .number (.integer n) => s!"integer `{n}`"
  | .number (.double x) => s!"floating point `{x.text}`"
  | .string s => "string " ++ Text.quoted s
  | .array _ => "sequence"
  | .object _ => "map"
  | .unreadable e => e.message

def invalidType {α : Type} (d : Document) (expected : String) : Except String α :=
  .error s!"invalid type: {d.described}, expected {expected}"

def invalidValue {α : Type} (d : Document) (expected : String) : Except String α :=
  .error s!"invalid value: {d.described}, expected {expected}"

end Document

namespace Codec

variable {α : Type}

def typed (name : String) : Dict Json := [("type", .string name)]

def string : Codec String where
  decode _ d :=
    match d with
    | .string s => .ok s
    | d => d.invalidType "a string"
  encode := .string
  schema := typed "string"

def bool : Codec Bool where
  decode _ d :=
    match d with
    | .bool b => .ok b
    | d => d.invalidType "a boolean"
  encode := .bool
  schema := typed "boolean"

/-- Integers of 64 bits with a sign. -/
def int64 : Codec Int where
  decode _ d :=
    match d with
    | .number (.integer n) => if n < 0x8000000000000000 then .ok n else d.invalidValue "i64"
    | d => d.invalidType "i64"
  encode := .ofInt
  schema := typed "integer"

def instant (precision : Instant.Precision) : Codec Instant where
  decode _ d :=
    match d with
    | .string s => (Instant.parse s).mapError (·.message)
    | d => d.invalidType "an RFC 3339 formatted date and time string"
  encode t := .string (t.text precision)
  schema := [("format", .string "date-time"), ("type", .string "string")]

/-- Values that are kept as they are. -/
def raw : Codec Json where
  decode _ d := d.value.mapError (·.message)
  encode j := j
  schema := typed "object"

/-- The items are read in order up to the first that fails. -/
def list (c : Codec α) : Codec (List α) where
  decode o d :=
    match d with
    | .array items => items.mapM (c.decode o)
    | d => d.invalidType "a sequence"
  encode xs := .array (xs.map c.encode)
  schema := [("items", .object c.schema), ("type", .string "array")]

/-- Reads the values of members in their order. -/
def decodeMembers (f : Document → Except String α) :
    List (String × Document) → Except String (List (String × α))
  | [] => .ok []
  | (k, d) :: rest => do
    let a ← f d
    let rest ← decodeMembers f rest
    return (k, a) :: rest

def dict (c : Codec α) : Codec (Dict α) where
  decode o d :=
    match d with
    | .object members => (decodeMembers (c.decode o) members).map Dict.ofList
    | d => d.invalidType "a map"
  encode d := .object (d.map fun e => (e.1, c.encode e.2))
  schema := [("additionalProperties", .object c.schema), ("type", .string "object")]

/-- Null stands for no value. -/
def option (c : Codec α) : Codec (Option α) where
  decode o d :=
    match d with
    | .null => .ok none
    | d => (c.decode o d).map some
  encode := Json.ofOption c.encode
  schema := Dict.insert c.schema "nullable" (.bool true)

/-- `a`, `a or b`, `one of a, b, c`. -/
def alternatives : List String → String
  | [] => ""
  | [a] => s!"`{a}`"
  | [a, b] => s!"`{a}` or `{b}`"
  | names => "one of " ++ ", ".intercalate (names.map fun a => s!"`{a}`")

def variant? (variants : List (String × α)) (name : String) : Except String α :=
  match variants.find? fun v => v.1 = name with
  | some v => .ok v.2
  | none =>
    let expected := alternatives (variants.map (·.1))
    .error s!"unknown variant `{name}`, expected {expected}"

/-- The content of a variant that has none. -/
def decodeUnit (o : Origin) : Document → Except String Unit
  | .null => .ok ()
  | .object [] => if o = .buffered then .ok () else (Document.object []).invalidType "unit"
  | d => d.invalidType "unit"

/-- One of finitely many names, alone or as the only key of an object. -/
def enumeration (variants : List (String × α)) (name : α → String) : Codec α where
  decode o d :=
    match d with
    | .string s => variant? variants s
    | .object [(k, v)] => do
      let a ← variant? variants k
      decodeUnit o v
      return a
    | .object _ => d.invalidValue "map with a single key"
    | d => d.invalidType "string or map"
  encode a := .string (name a)
  schema := [("enum", .ofStrings (variants.map (·.1))), ("type", .string "string")]

/-- Reads what a value stands for. -/
def read (c : Codec α) (j : Json) : Except String α := c.decode .direct (.ofJson j)

/-- Reads what a text stands for. -/
def readText (c : Codec α) (text : String) : Except String α := do
  let d ← (Document.parse text).mapError (·.message)
  c.decode .direct d

end Codec

end ControlPlane
