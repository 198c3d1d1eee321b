import DeliveryRules.Rule.Explanation
import DeliveryRules.Rule.Simulation
import DeliveryRules.Rule.Validation

/-! Everything a user wants to see of a rule before it is saved. -/

namespace DeliveryRules

/-- How deep the parts of the library follow a tree. -/
structure Limits where
  -- This limit also bounds the nesting of JSON in sentences.
  validation : Int
  evaluation : Int
  explanation : Int
deriving DecidableEq

namespace Limits

/-- The limit that holds where no other is given. -/
def standard : Int := 32

/-- One limit for all parts. -/
def uniform (limit : Int) : Limits := ⟨limit, limit, limit⟩

end Limits

/-- A rule checked, put into words and tried out. -/
structure Preview where
  verdict : Verdict
  explanation : String
  simulation : List String
deriving DecidableEq

namespace Preview

/-- A preview as a document. -/
def toValue (preview : Preview) : Value :=
  .object (preview.verdict.members ++
    [("explanation", .text preview.explanation),
      ("simulation", .list (preview.simulation.map .text))])

end Preview

/-- The misuse that leaves a rule without a sentence. -/
def SentenceError.toRuleError : SentenceError → RuleError
  | .uncheckedOperator => .misuse .uncheckedOperator
  | .numeral reason => .misuse (.numeral reason)

/-- The sentence for a rule. -/
def explanationOf (limits : Limits) (tree : Value) : Except RuleError String :=
  (explain limits.explanation limits.validation tree).mapError SentenceError.toRuleError

/-- The preview of a rule for a category. -/
def previewRule (limits : Limits) (catalog : Catalog) (category : Category) (tree : Value) :
    Except RuleError Preview := do
  let verdict := validate limits.validation catalog category tree
  let explanation ← explanationOf limits tree
  let simulation ← simulate limits.evaluation limits.validation category tree
  return ⟨verdict, explanation, simulation⟩

end DeliveryRules
