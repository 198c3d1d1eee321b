import DeliveryRules.Value.Display

/-! The categories of rules and the kinds of fields, by the words that name them. -/

namespace DeliveryRules

/-- What a rule decides: which provider gets an order, or which of their quotes is taken. -/
inductive Category
  | providerSelection
  | quoteEvaluation
deriving DecidableEq

namespace Category

/-- Every category, in the order in which they are listed to readers. -/
def all : List Category := [.providerSelection, .quoteEvaluation]

/-- The word for a category. -/
def word : Category → String
  | .providerSelection => "provider_selection"
  | .quoteEvaluation => "quote_evaluation"

/-- The kind of result that rules of a category produce. -/
def resultType : Category → String
  | .providerSelection => "provider"
  | .quoteEvaluation => "quote_provider"

/-- The category a word names. -/
def ofWord? (word : String) : Option Category := all.find? (·.word == word)

/-- The category a value names, or the value itself when it names none. -/
def ofValue (value : Value) : Except Value Category :=
  match value with
  | .text word =>
    match ofWord? word with
    | some category => .ok category
    | none => .error value
  | other => .error other

end Category

/-- What kind of data a field holds. -/
inductive FieldKind
  | string
  | number
  | boolean
  | object
  | array
deriving DecidableEq

namespace FieldKind

/-- Every kind of field. -/
def all : List FieldKind := [.string, .number, .boolean, .object, .array]

/-- The word for a kind of field. -/
def word : FieldKind → String
  | .string => "string"
  | .number => "number"
  | .boolean => "boolean"
  | .object => "object"
  | .array => "array"

/-- The kind of field a word names. -/
def ofWord? (word : String) : Option FieldKind := all.find? (·.word == word)

end FieldKind

end DeliveryRules
