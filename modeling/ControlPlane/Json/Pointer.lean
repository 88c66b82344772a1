import ControlPlane.Json.Basic

/-!
# Pointers into JSON values

A pointer is empty, or a slash before each of its steps. A step is a key or the position of an
item; in it `~1` stands for a slash and `~0` for a tilde.
-/

namespace ControlPlane.Json

/-- A step as it is meant. -/
def unescapeStep : List Char → List Char
  | '~' :: '1' :: rest => '/' :: unescapeStep rest
  | '~' :: '0' :: rest => '~' :: unescapeStep rest
  | c :: rest => c :: unescapeStep rest
  | [] => []

/-- A position has no sign and no zero before other digits. -/
def position? (cs : List Char) : Option Nat :=
  match cs with
  | ['0'] => some 0
  | '0' :: _ => none
  | [] => none
  | cs => if cs.all Char.isDigit then (String.ofList cs).toNat? else none

/-- The value one step down. -/
def step? (step : List Char) : Json → Option Json
  | .object members => Dict.get? members (String.ofList step)
  | .array items => (position? step).bind fun n => items[n]?
  | _ => none

/-- The steps between slashes. -/
def splitSteps (cs : List Char) : List (List Char) :=
  cs.foldr
    (fun c steps =>
      if c = '/' then [] :: steps
      else
        match steps with
        | s :: rest => (c :: s) :: rest
        | [] => [[c]])
    [[]]

/-- The value that a pointer leads to. -/
def pointer? (j : Json) (pointer : String) : Option Json :=
  match pointer.toList with
  | [] => some j
  | '/' :: cs =>
    (splitSteps cs).foldl (fun j s => j.bind (step? (unescapeStep s))) (some j)
  | _ => none

end ControlPlane.Json
