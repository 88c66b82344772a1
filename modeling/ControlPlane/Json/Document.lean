import ControlPlane.Json.Basic

/-!
# Documents

A document is a JSON text as it is written: the members of an object keep their order, and a key may
occur several times. `Document.value` is the value that it gives and `Document.ofJson` the document
that says nothing but a value; `value_ofJson` says that the one undoes the other.

A text can be well formed and still hold something that no value can: a number out of range, half of
a pair of surrogates, or containers that nest too deeply. Such a part is `Document.unreadable`, and
it is a fault only for a reader who looks at it.
-/

namespace ControlPlane

inductive SyntaxFault where
  | eofInList
  | eofInObject
  | eofInString
  | eofInValue
  | expectedColon
  | expectedListCommaOrEnd
  | expectedObjectCommaOrEnd
  | expectedWord
  | expectedValue
  | invalidEscape
  | invalidNumber
  | numberOutOfRange
  | controlCharacter
  | keyMustBeString
  | loneSurrogate
  | trailingComma
  | trailingCharacters
  | unexpectedEndOfEscape
  | nestedTooDeeply

def SyntaxFault.message : SyntaxFault → String
  | .eofInList => "EOF while parsing a list"
  | .eofInObject => "EOF while parsing an object"
  | .eofInString => "EOF while parsing a string"
  | .eofInValue => "EOF while parsing a value"
  | .expectedColon => "expected `:`"
  | .expectedListCommaOrEnd => "expected `,` or `]`"
  | .expectedObjectCommaOrEnd => "expected `,` or `\x7d`"
  | .expectedWord => "expected ident"
  | .expectedValue => "expected value"
  | .invalidEscape => "invalid escape"
  | .invalidNumber => "invalid number"
  | .numberOutOfRange => "number out of range"
  | .controlCharacter => "control character (\\u0000-\\u001F) found while parsing a string"
  | .keyMustBeString => "key must be a string"
  | .loneSurrogate => "lone leading surrogate in hex escape"
  | .trailingComma => "trailing comma"
  | .trailingCharacters => "trailing characters"
  | .unexpectedEndOfEscape => "unexpected end of hex escape"
  | .nestedTooDeeply => "recursion limit exceeded"

/-- Whether the text ended too early. -/
def SyntaxFault.isEnd : SyntaxFault → Bool
  | .eofInList | .eofInObject | .eofInString | .eofInValue => true
  | _ => false

structure ParseError where
  fault : SyntaxFault
  line : Nat
  column : Nat

def ParseError.message (e : ParseError) : String :=
  s!"{e.fault.message} at line {e.line} column {e.column}"

inductive Document where
  | null
  | bool (value : Bool)
  | number (value : Number)
  | string (value : String)
  | array (items : List Document)
  | object (members : List (String × Document))
  | unreadable (error : ParseError)
deriving Inhabited

namespace Document

mutual

/-- The value of a document. Of the members of an object with one key the last one stays. -/
def value : Document → Except ParseError Json
  | .null => .ok .null
  | .bool b => .ok (.bool b)
  | .number n => .ok (.number n)
  | .string s => .ok (.string s)
  | .array items => (itemValues items).map .array
  | .object members => (memberValues members).map .ofMembers
  | .unreadable e => .error e

def itemValues : List Document → Except ParseError (List Json)
  | [] => .ok []
  | d :: rest => do
    let x ← value d
    let xs ← itemValues rest
    return x :: xs

def memberValues : List (String × Document) → Except ParseError (List (String × Json))
  | [] => .ok []
  | (k, d) :: rest => do
    let x ← value d
    let xs ← memberValues rest
    return (k, x) :: xs

end

mutual

/-- The document that gives a value and holds nothing else. -/
def ofJson : Json → Document
  | .null => .null
  | .bool b => .bool b
  | .number n => .number n
  | .string s => .string s
  | .array items => .array (ofItems items)
  | .object members => .object (ofMembers members)

def ofItems : List Json → List Document
  | [] => []
  | x :: rest => ofJson x :: ofItems rest

def ofMembers : List (String × Json) → List (String × Document)
  | [] => []
  | (k, x) :: rest => (k, ofJson x) :: ofMembers rest

end

/-- The documents at a key, in their order. -/
def named (key : String) (members : List (String × Document)) : List Document :=
  members.filterMap fun e => if e.1 = key then some e.2 else none

/-- The first fault in the values of members. -/
def firstFault? (members : List (String × Document)) : Option ParseError :=
  match memberValues members with
  | .ok _ => none
  | .error e => some e

mutual

theorem value_ofJson {j : Json} (h : j.Canonical) : (ofJson j).value = .ok j := by
  match j, h with
  | .null, _ => rfl
  | .bool _, _ => rfl
  | .number _, _ => rfl
  | .string _, _ => rfl
  | .array items, h =>
    simp only [ofJson, value, itemValues_ofItems (by simpa only [Json.Canonical] using h)]
    rfl
  | .object members, h =>
    simp only [Json.Canonical] at h
    simp only [ofJson, value, memberValues_ofMembers h.2]
    exact congrArg (fun m => Except.ok (Json.object m)) h.1.ofList_eq

theorem itemValues_ofItems {items : List Json} (h : Json.CanonicalItems items) :
    itemValues (ofItems items) = .ok items := by
  match items, h with
  | [], _ => rfl
  | x :: rest, h =>
    simp only [Json.CanonicalItems] at h
    simp only [ofItems, itemValues, value_ofJson h.1, itemValues_ofItems h.2]
    rfl

theorem memberValues_ofMembers {members : List (String × Json)}
    (h : Json.CanonicalMembers members) : memberValues (ofMembers members) = .ok members := by
  match members, h with
  | [], _ => rfl
  | (k, x) :: rest, h =>
    simp only [Json.CanonicalMembers] at h
    simp only [ofMembers, memberValues, value_ofJson h.1, memberValues_ofMembers h.2]
    rfl

end

end Document

end ControlPlane
