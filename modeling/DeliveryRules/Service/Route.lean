/-! The routes of the service: what its addresses stand for. -/

namespace DeliveryRules.Service

/-- An operation on a rule that is sent to the service. -/
inductive RuleAction
  | validate
  | explain
  | simulate
  | preview
  | evaluate
deriving DecidableEq

namespace RuleAction

/-- Every operation on a rule. -/
def all : List RuleAction := [.validate, .explain, .simulate, .preview, .evaluate]

/-- The word for an operation in an address. -/
def word : RuleAction → String
  | .validate => "validate"
  | .explain => "explain"
  | .simulate => "simulate"
  | .preview => "preview"
  | .evaluate => "evaluate"

/-- The operation a word names. -/
def ofWord? (word : String) : Option RuleAction := all.find? (·.word == word)

/-- The address of an operation. -/
def address (action : RuleAction) : String := "/rules/" ++ action.word

end RuleAction

/-- What stands behind an address. -/
inductive Route
  | health
  | catalog
  | prompt
  | paths (category : String)
  | rule (action : RuleAction)
deriving DecidableEq

namespace Route

/-- The only method that a route answers. -/
def method : Route → String
  | .rule _ => "POST"
  | _ => "GET"

/-- The route at the parts of a path. -/
def ofParts? : List String → Option Route
  | ["health"] => some .health
  | ["catalog"] => some .catalog
  | ["catalog", "prompt"] => some .prompt
  | ["catalog", category, "paths"] => if category = "" then none else some (.paths category)
  | ["rules", word] => (RuleAction.ofWord? word).map .rule
  | _ => none

end Route

end DeliveryRules.Service
