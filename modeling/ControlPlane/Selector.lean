import ControlPlane.Codec.Record

/-!
# Label selectors

A selector lists labels that have to be present with a given value, and requirements. Labels
satisfy it when they satisfy all of these, so an empty selector is satisfied by any labels.
-/

namespace ControlPlane

inductive SelectorOperator where
  | isIn
  | notIn
  | present
  | absent
deriving DecidableEq, Inhabited

namespace SelectorOperator

def name : SelectorOperator → String
  | .isIn => "In"
  | .notIn => "NotIn"
  | .present => "Exists"
  | .absent => "DoesNotExist"

def codec : Codec SelectorOperator :=
  .enumeration
    [("In", .isIn), ("NotIn", .notIn), ("Exists", .present), ("DoesNotExist", .absent)] name

/-- Whether the value of a label, or its absence, satisfies the operator. -/
def accepts (op : SelectorOperator) (value : Option String) (values : List String) : Bool :=
  match op, value with
  | .isIn, some v => values.contains v
  | .isIn, none => false
  | .notIn, some v => !values.contains v
  | .notIn, none => true
  | .present, v => v.isSome
  | .absent, v => v.isNone

end SelectorOperator

structure SelectorRequirement where
  key : String
  operator : SelectorOperator
  values : List String
deriving DecidableEq, Inhabited

namespace SelectorRequirement

def codec : Codec SelectorRequirement :=
  Record.codec "LabelSelectorRequirement" "A single label selector requirement" <|
    SelectorRequirement.mk
      <$> .required "key" .string (·.key) "The label key that the selector applies to"
      <*> .required "operator" SelectorOperator.codec (·.operator)
        "Operator representing the relationship between label and values"
      <*> .defaulted "values" (.list .string) [] (·.values)
        "Values for `In` / `NotIn`; empty for `Exists` / `DoesNotExist`"

def accepts (r : SelectorRequirement) (labels : Dict String) : Bool :=
  r.operator.accepts (labels.get? r.key) r.values

end SelectorRequirement

structure NamespaceSelector where
  matchLabels : Option (Dict String)
  matchExpressions : List SelectorRequirement
deriving DecidableEq, Inhabited

namespace NamespaceSelector

def codec : Codec NamespaceSelector :=
  Record.codec "NamespaceSelector"
    "Selects namespaces by their labels. An empty selector selects every namespace." <|
    NamespaceSelector.mk
      <$> .optional "matchLabels" (.dict .string) (·.matchLabels)
        "Exact label matches; all must match"
      <*> .list "matchExpressions" SelectorRequirement.codec (·.matchExpressions)
        "Label requirements; all must be satisfied"

def accepts (s : NamespaceSelector) (labels : Dict String) : Bool :=
  ((s.matchLabels.getD []).all fun e => labels.get? e.1 = some e.2) &&
    s.matchExpressions.all (·.accepts labels)

/-- Whether the selector names no label at all. -/
def isEmpty (s : NamespaceSelector) : Bool :=
  (s.matchLabels.getD []).isEmpty && s.matchExpressions.isEmpty

end NamespaceSelector

end ControlPlane
