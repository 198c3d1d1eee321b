import DeliveryRules.Catalog.Basic
import DeliveryRules.Path.Lexeme
import DeliveryRules.Rule.Reference

/-! Rules checked against a catalog: a rule may refer only to fields of its own category. -/

namespace DeliveryRules

/-- The outcome of a check: a sentence for every reference that is not allowed. -/
structure Verdict where
  errors : List String
deriving DecidableEq

namespace Verdict

/-- Whether a rule passed. -/
def isValid (verdict : Verdict) : Bool := verdict.errors.isEmpty

/-- The members of a verdict as a document. -/
def members (verdict : Verdict) : Members :=
  [("valid", .bool verdict.isValid), ("errors", .list (verdict.errors.map .text))]

/-- A verdict as a document. -/
def toValue (verdict : Verdict) : Value := .object verdict.members

end Verdict

/-- Whether a reference stays within the allowed paths, whatever elements it picks out. -/
def isAllowed (allowed : List String) (path : String) : Bool :=
  allowed.contains (normalizePath path)

/-- The sentence about a reference that is not allowed. -/
def refusal (category : Category) (path : String) : String :=
  "Field '" ++ path ++ "' is not available for " ++ category.word

/-- A rule checked for a category, its references being read down to a depth. -/
def validate (limit : Int) (catalog : Catalog) (category : Category) (tree : Value) : Verdict :=
  let allowed := catalog.pathsFor category
  let refused := (referencedFields limit tree).filter fun path => !isAllowed allowed path
  ⟨refused.map (refusal category)⟩

end DeliveryRules
