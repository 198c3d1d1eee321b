import DeliveryRules.Rule.Error
import DeliveryRules.Rule.Rendering
import DeliveryRules.Rule.Sample

/-! Rules tried out on the sample orders of their category. -/

namespace DeliveryRules

/-- A rule evaluated on each of some documents, up to the first failure. -/
def evaluateEach (limit : Int) (tree : Value) (documents : List Value) :
    Except RuleError (List (Value × Value)) :=
  documents.mapM fun document =>
    match evaluate limit tree document with
    | .ok result => .ok (document, result)
    | .error reason => .error reason.toRuleError

/-- The sample documents of a category, each with the value of a rule on it. -/
def runSamples (limit : Int) (category : Category) (tree : Value) :
    Except RuleError (List (Value × Value)) :=
  -- The tree is parsed once, before any document is looked at.
  match tree.toCondition limit with
  | .error fault => .error (.malformed fault)
  | .ok built => evaluateEach limit (.condition built) (Sample.documents category)

/-- The line that tells what a rule decides about an order. -/
def simulationLine (nesting : Int) (document result : Value) : Except RuleError String :=
  match orderAmount document with
  | .error reason => .error (.misuse (.amount reason))
  | .ok amount => do
    let shown ← RuleError.ofNumeral (renderLiteral nesting result)
    return "Order " ++ amount ++ " → " ++ shown

/-- One line for each sample order of a category. -/
def simulate (limit nesting : Int) (category : Category) (tree : Value) :
    Except RuleError (List String) := do
  let results ← runSamples limit category tree
  results.mapM fun pair => simulationLine nesting pair.1 pair.2

end DeliveryRules
