import ControlPlane.Binary64.Basic
import ControlPlane.Dict

/-!
# JSON values

Integers and doubles are different numbers, as `1` and `1.0` are different texts. The members of an
object are a dictionary; `Json.Canonical` says that they are in key order at every depth, and
`Json.same` compares two values.
-/

namespace ControlPlane

inductive Number where
  | integer (value : Int)
  | double (value : Binary64)
deriving DecidableEq, Inhabited

/-- The two zeros among the doubles are equal, and an integer equals no double. -/
def Number.same : Number → Number → Bool
  | .integer a, .integer b => a == b
  | .double a, .double b => Binary64.same a b
  | _, _ => false

inductive Json where
  | null
  | bool (value : Bool)
  | number (value : Number)
  | string (value : String)
  | array (items : List Json)
  | object (members : List (String × Json))
deriving Inhabited

namespace Json

mutual

/-- Equality of values. -/
def same : Json → Json → Bool
  | .null, .null => true
  | .bool a, .bool b => a == b
  | .number a, .number b => a.same b
  | .string a, .string b => a == b
  | .array xs, .array ys => sameItems xs ys
  | .object xs, .object ys => sameMembers xs ys
  | _, _ => false

def sameItems : List Json → List Json → Bool
  | [], [] => true
  | x :: xs, y :: ys => x.same y && sameItems xs ys
  | _, _ => false

def sameMembers : List (String × Json) → List (String × Json) → Bool
  | [], [] => true
  | (k, x) :: xs, (l, y) :: ys => k == l && x.same y && sameMembers xs ys
  | _, _ => false

end

mutual

/-- Decides whether two values are the same in every respect, down to the signs of zeros. -/
def decEq : (x y : Json) → Decidable (x = y)
  | .null, y =>
    match y with
    | .null => isTrue rfl
    | .bool _ | .number _ | .string _ | .array _ | .object _ => isFalse nofun
  | .bool a, y =>
    match y with
    | .bool b => decidable_of_iff (a = b) (by simp)
    | .null | .number _ | .string _ | .array _ | .object _ => isFalse nofun
  | .number a, y =>
    match y with
    | .number b => decidable_of_iff (a = b) (by simp)
    | .null | .bool _ | .string _ | .array _ | .object _ => isFalse nofun
  | .string a, y =>
    match y with
    | .string b => decidable_of_iff (a = b) (by simp)
    | .null | .bool _ | .number _ | .array _ | .object _ => isFalse nofun
  | .array xs, y =>
    match y with
    | .array ys =>
      have := decEqItems xs ys
      decidable_of_iff (xs = ys) (by simp)
    | .null | .bool _ | .number _ | .string _ | .object _ => isFalse nofun
  | .object xs, y =>
    match y with
    | .object ys =>
      have := decEqMembers xs ys
      decidable_of_iff (xs = ys) (by simp)
    | .null | .bool _ | .number _ | .string _ | .array _ => isFalse nofun

def decEqItems : (xs ys : List Json) → Decidable (xs = ys)
  | [], [] => isTrue rfl
  | [], _ :: _ | _ :: _, [] => isFalse nofun
  | x :: xs, y :: ys =>
    have := decEq x y
    have := decEqItems xs ys
    decidable_of_iff (x = y ∧ xs = ys) (by simp)

def decEqMembers : (xs ys : List (String × Json)) → Decidable (xs = ys)
  | [], [] => isTrue rfl
  | [], _ :: _ | _ :: _, [] => isFalse nofun
  | (k, x) :: xs, (l, y) :: ys =>
    have := decEq x y
    have := decEqMembers xs ys
    decidable_of_iff (k = l ∧ x = y ∧ xs = ys) (by simp [and_assoc])

end

instance : DecidableEq Json := decEq

mutual

/-- The members of every object ascend by key. -/
def Canonical : Json → Prop
  | .array items => CanonicalItems items
  | .object members => Dict.Sorted members ∧ CanonicalMembers members
  | _ => True

def CanonicalItems : List Json → Prop
  | [] => True
  | x :: xs => x.Canonical ∧ CanonicalItems xs

def CanonicalMembers : List (String × Json) → Prop
  | [] => True
  | (_, x) :: xs => x.Canonical ∧ CanonicalMembers xs

end

def ofInt (n : Int) : Json := .number (.integer n)

def ofNat (n : Nat) : Json := .ofInt n

/-- An object of these members, in key order. -/
def ofMembers (members : List (String × Json)) : Json := .object (Dict.ofList members)

def ofStrings (texts : List String) : Json := .array (texts.map .string)

def ofOption {α : Type} (f : α → Json) : Option α → Json
  | none => .null
  | some a => f a

/-- The member at `k`; only objects have members. -/
def get? : Json → String → Option Json
  | .object members, k => Dict.get? members k
  | _, _ => none

def isNull : Json → Bool
  | .null => true
  | _ => false

def asString? : Json → Option String
  | .string s => some s
  | _ => none

def asBool? : Json → Option Bool
  | .bool b => some b
  | _ => none

def asInt? : Json → Option Int
  | .number (.integer n) => some n
  | _ => none

def asObject? : Json → Option (Dict Json)
  | .object members => some members
  | _ => none

def asArray? : Json → Option (List Json)
  | .array items => some items
  | _ => none

/-- The member at `k` unless it is null. -/
def present? (j : Json) (k : String) : Option Json := (j.get? k).filter fun v => !v.isNull

/-- The text at `k`. -/
def text? (j : Json) (k : String) : Option String := (j.get? k).bind asString?

end Json

end ControlPlane
