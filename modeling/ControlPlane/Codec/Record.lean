import ControlPlane.Codec.Basic

/-!
# Records

`Record R α` is a list of members of an object that together give an `α`, and that are written
from an `R`. Members are put together as in `Pair.mk <$> first <*> second`; a record of all members
of `R` gives its codec by `Record.codec`.

Members are read in the order of their keys and their absence is noticed last, in the order of
declaration. So of several faults `Fault.first` is the one that is reported. Members that a record
does not have are passed over.

A key may stand several times in a document. `Record.codec` refuses that. To `Record.objectCodec`
the last value counts, but all have to be such as can be read.
-/

namespace ControlPlane

/-- What keeps a record from being read. -/
inductive Fault where
  /-- The member `key` is present and cannot be read. -/
  | invalid (key message : String)
  | missing (key : String)
  /-- A fault in a flattened record, which is read after its surroundings. -/
  | flattened (message : String)

def Fault.message : Fault → String
  | .invalid _ message => message
  | .missing key => s!"missing field `{key}`"
  | .flattened message => message

/-- Of two faults the one that is noticed first; `a` is of members declared before those of `b`. -/
def Fault.first (a b : Fault) : Fault :=
  match a, b with
  | .invalid k _, .invalid l _ => if l < k then b else a
  | .missing _, .invalid _ _ => b
  | .flattened _, .invalid _ _ => b
  | .flattened _, .missing _ => b
  | _, _ => a

/-- Reads two parts of a record and keeps the fault that is noticed first. -/
def Fault.merge {α β : Type} (f : Except Fault (α → β)) (x : Except Fault α) : Except Fault β :=
  match f, x with
  | .ok f, .ok a => .ok (f a)
  | .ok _, .error b => .error b
  | .error a, .ok _ => .error a
  | .error a, .error b => .error (a.first b)

/-- What keeps a record from being read off the items of an array. -/
inductive ItemsFault where
  | invalid (message : String)
  /-- There is no item at this position. -/
  | short (position : Nat)

/-- The schema of one member. -/
structure Property where
  key : String
  schema : Dict Json
  required : Bool

structure Record (R α : Type) where
  /-- The members in the order of declaration. -/
  properties : List Property
  read : Origin → List (String × Document) → Except Fault α
  /-- Reads the members from the items of an array that starts at this position. -/
  readItems : Origin → Nat → List Document → Except ItemsFault (α × List Document)
  write : R → List (String × Json)

namespace Record

variable {R S α β : Type}

instance : Functor (Record R) where
  map f r :=
    { properties := r.properties
      read := fun o d => (r.read o d).map f
      readItems := fun o n items => (r.readItems o n items).map fun x => (f x.1, x.2)
      write := r.write }

instance : Seq (Record R) where
  seq f x :=
    let f' := f
    let x' := x ()
    { properties := f'.properties ++ x'.properties
      read := fun o d => Fault.merge (f'.read o d) (x'.read o d)
      readItems := fun o n items => do
        let (g, rest) ← f'.readItems o n items
        let (a, rest) ← x'.readItems o (n + (items.length - rest.length)) rest
        return (g a, rest)
      write := fun r => f'.write r ++ x'.write r }

/-- A schema with `doc` as its description; without a text of its own it keeps that of the type. -/
def describe (doc : String) (schema : Dict Json) : Dict Json :=
  if doc.isEmpty then schema else schema.insert "description" (.string doc)

/-- Reads the next item of an array; `absent` is the value when there is none. -/
def nextItem (decode : Document → Except String α) (absent : Option α) (n : Nat) :
    List Document → Except ItemsFault (α × List Document)
  | [] =>
    match absent with
    | some a => .ok (a, [])
    | none => .error (.short n)
  | d :: rest =>
    match decode d with
    | .ok a => .ok (a, rest)
    | .error e => .error (.invalid e)

/-- Reads the values of a key; of several the last one counts. -/
def lastOf (decode : Document → Except String α) : List Document → Except String (Option α)
  | [] => .ok none
  | [d] => (decode d).map some
  | d :: rest => do
    let _ ← decode d
    lastOf decode rest

/-- A member: `absent` is its value in an object that lacks it, `itemAbsent` in an array that ends
before it, and `write` gives none when it is left out. -/
def member (key : String) (schema : Dict Json) (decode : Origin → Document → Except String α)
    (absent itemAbsent : Option α) (write : R → Option Json) : Record R α where
  properties := [⟨key, schema, absent.isNone⟩]
  read o d :=
    match lastOf (decode o) (Document.named key d) with
    | .ok (some a) => .ok a
    | .ok none =>
      match absent with
      | some a => .ok a
      | none => .error (.missing key)
    | .error e => .error (.invalid key e)
  readItems o n items := nextItem (decode o) itemAbsent n items
  write r :=
    match write r with
    | some j => [(key, j)]
    | none => []

/-- A member that has to be there. -/
def required (key : String) (c : Codec α) (get : R → α) (doc : String) : Record R α :=
  member key (describe doc c.schema) c.decode none none fun r => some (c.encode (get r))

/-- A member that may be absent or null, and is left out when there is no value. -/
def optional (key : String) (c : Codec α) (get : R → Option α) (doc : String) :
    Record R (Option α) :=
  member key (describe doc c.option.schema) c.option.decode (some none) (some none)
    fun r => (get r).map c.encode

/-- A member that is left out when it is empty. -/
def omittable [Inhabited α] (key : String) (c : Codec α) (isEmpty : α → Bool) (get : R → α)
    (doc : String) : Record R α :=
  member key (describe doc c.schema) c.decode (some default) (some default)
    fun r => if isEmpty (get r) then none else some (c.encode (get r))

/-- A member that has the value `fallback` when it is absent, and is always written. -/
def defaulted (key : String) (c : Codec α) (fallback : α) (get : R → α) (doc : String) :
    Record R α :=
  member key (describe doc (c.schema.insert "default" (c.encode fallback))) c.decode
    (some fallback) (some fallback) fun r => some (c.encode (get r))

/-- A member that has its default value when it is absent or null, and is always written. -/
def filled [Inhabited α] (key : String) (c : Codec α) (get : R → α) : Record R α :=
  member key c.schema (fun o d => (c.option.decode o d).map (·.getD default)) (some default)
    (some default) fun r => some (c.encode (get r))

/-- A list that is left out when it is empty. -/
def list (key : String) (c : Codec α) (get : R → List α) (doc : String) : Record R (List α) :=
  omittable key c.list List.isEmpty get doc

/-- A dictionary of texts that is left out when it is empty. -/
def dict (key : String) (get : R → Dict String) (doc : String) : Record R (Dict String) :=
  omittable key Codec.string.dict List.isEmpty get doc

/-- No member at all. -/
def unit : Record R Unit where
  properties := []
  read _ _ := .ok ()
  readItems _ _ items := .ok ((), items)
  write _ := []

/-- The members of a part of `R`. -/
def within (r : Record S α) (get : R → S) : Record R α where
  properties := r.properties
  read := r.read
  readItems := r.readItems
  write x := r.write (get x)

/-- Whether the record has a member of this key. -/
def hasMember (r : Record R α) (key : String) : Bool := r.properties.any fun p => p.key = key

/-- The members of a part of `R` that is itself a value with a place of its own: they stand among
those of its surroundings and are read after them. -/
def flatten (r : Record S α) (get : R → S) : Record R α where
  properties := r.properties
  read _ d :=
    match Document.firstFault? (d.filter fun e => r.hasMember e.1) with
    | some e => .error (.flattened e.message)
    | none => (r.read .buffered d).mapError fun f => .flattened f.message
  readItems _ n _ := .error (.short n)
  write x := r.write (get x)

/-- `n elements`, and `1 element`. -/
def elements (n : Nat) : String := if n = 1 then "1 element" else s!"{n} elements"

def decodeItems (name : String) (r : Record R α) (o : Origin) (items : List Document) :
    Except String α :=
  match r.readItems o 0 items with
  | .error (.invalid message) => .error message
  | .error (.short n) =>
    .error s!"invalid length {n}, expected {name} with {elements r.properties.length}"
  | .ok (a, []) => .ok a
  | .ok (_, _ :: _) =>
    match o with
    | .direct => .error s!"invalid length {items.length}, expected fewer elements in array"
    | .buffered =>
      .error s!"invalid length {items.length}, expected {elements r.properties.length} in sequence"

def decodeMembers (r : Record R α) (o : Origin) (d : List (String × Document)) :
    Except String α :=
  (r.read o d).mapError (·.message)

/-- Refuses members of the record that stand several times. -/
def decodeDistinct (r : Record R α) (o : Origin) (d : List (String × Document)) :
    Except String α :=
  match r.properties.find? fun p => 1 < (Document.named p.key d).length with
  | some p => .error s!"duplicate field `{p.key}`"
  | none => r.decodeMembers o d

/-- The structural schema of an object with these members. -/
def objectSchema (properties : List Property) : Dict Json :=
  let required := ((properties.filter (·.required)).map (·.key)).mergeSort (fun a b => a ≤ b)
  let base : Dict Json := Dict.ofList
    [("properties", .ofMembers (properties.map fun p => (p.key, .object p.schema))),
      ("type", .string "object")]
  if required.isEmpty then base else base.insert "required" (.ofStrings required)

def encode (r : Record R α) (x : R) : Json := .ofMembers (r.write x)

/-- A record that is read from objects alone; `expected` is what messages call it. -/
def objectCodec (expected doc : String) (r : Record α α) : Codec α where
  decode o d :=
    match d with
    | .object members => r.decodeMembers o members
    | d => d.invalidType expected
  encode := r.encode
  schema := describe doc (objectSchema r.properties)

/-- A record that keeps the members that are not its own, or has parts that are flattened. It is
read from objects alone, and all of their members are looked at. -/
def gatheringCodec (expected doc : String) (r : Record α α) : Codec α where
  decode o d :=
    match d with
    | .object members =>
      match Document.firstFault? (members.filter fun e => !r.hasMember e.1) with
      | some e => .error e.message
      | none => r.decodeDistinct o members
    | d => d.invalidType expected
  encode := r.encode
  schema := describe doc (objectSchema r.properties)

/-- A record that is read from objects, and from arrays of its members in the order of
declaration. -/
def codec (name doc : String) (r : Record α α) : Codec α where
  decode o d :=
    match d with
    | .object members => r.decodeDistinct o members
    | .array items => r.decodeItems ("struct " ++ name) o items
    | d => d.invalidType ("struct " ++ name)
  encode := r.encode
  schema := describe doc (objectSchema r.properties)

end Record

end ControlPlane
