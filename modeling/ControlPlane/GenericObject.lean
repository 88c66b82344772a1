import ControlPlane.Metadata

/-!
# Objects of any kind

Of an object whose kind is only known when the program runs, the type and the metadata are read;
the other members are kept as they are.
-/

namespace ControlPlane

structure TypeName where
  apiVersion : String
  kind : String
deriving DecidableEq, Inhabited

structure GenericObject where
  type : Option TypeName
  metadata : Metadata
  data : Dict Json
deriving Inhabited

namespace GenericObject

/-- Takes the members that name the type from among others, until one of them cannot be used: it is
no text, or the second of its key. That one is dropped, and the type is not known. -/
def takeType (apiVersion kind : Option String) :
    List (String × Json) → Option TypeName × List (String × Json)
  | [] =>
    match apiVersion, kind with
    | some v, some k => (some ⟨v, k⟩, [])
    | _, _ => (none, [])
  | (key, x) :: rest =>
    if key = "apiVersion" then
      match apiVersion, x.asString? with
      | none, some s => takeType (some s) kind rest
      | _, _ => (none, rest)
    else if key = "kind" then
      match kind, x.asString? with
      | none, some s => takeType apiVersion (some s) rest
      | _, _ => (none, rest)
    else
      let (type, others) := takeType apiVersion kind rest
      (type, (key, x) :: others)

/-- The type named by the members of an object, when both of its parts are texts. -/
def typeOf? (d : Dict Json) : Option TypeName := (takeType none none d).1

/-- The metadata may be absent; nothing else is left aside. -/
def codec : Codec GenericObject where
  decode o d :=
    match d with
    | .object members => do
      let metadata ←
        match Document.named "metadata" members with
        | [] => .ok {}
        | [m] => Metadata.codec.decode o m
        | _ => .error "duplicate field `metadata`"
      let others := members.filter fun e => e.1 ≠ "metadata"
      let others ← (Document.memberValues others).mapError (·.message)
      let (type, data) := takeType none none others
      return { type, metadata, data := Dict.ofList data }
    | d => d.invalidType "struct DynamicObject"
  encode x :=
    let types :=
      match x.type with
      | some t => [("apiVersion", Json.string t.apiVersion), ("kind", .string t.kind)]
      | none => []
    .ofMembers (types ++ [("metadata", Metadata.codec.encode x.metadata)] ++ x.data)
  schema := Codec.typed "object"

end GenericObject

end ControlPlane
