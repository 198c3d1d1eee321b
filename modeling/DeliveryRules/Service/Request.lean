import DeliveryRules.Json.Parser
import DeliveryRules.Service.Route
import DeliveryRules.Text.Line

/-! Requests to the service, and the rules that their bodies carry. -/

namespace DeliveryRules.Service

/-- A request to the service; the text of its body is empty where it has none. -/
structure Request where
  method : String
  address : String
  body : String
deriving DecidableEq

/-- The document that a body is, which may be marked as text in front. -/
def bodyDocument (body : String) : Except TextError Value :=
  Json.read (String.ofList (withoutMark body.toList))

/-- The members that an operation expects in the body of a request. -/
structure Expectation where
  category : Bool
  data : Bool
deriving DecidableEq

namespace RuleAction

/-- The members that an operation expects, besides the rule itself. -/
def expectation : RuleAction → Expectation
  | .explain => ⟨false, false⟩
  | .evaluate => ⟨true, true⟩
  | _ => ⟨true, false⟩

end RuleAction

/-- A rule with whatever else was sent along, null standing for what is not expected. -/
structure RuleBody where
  category : Value
  condition : Value
  data : Value

end DeliveryRules.Service
