/-! The operators of the condition language and the tags that name them in documents. -/

namespace DeliveryRules

/-- A comparison of two operands. -/
inductive Comparator
  | greater
  | less
  | atLeast
  | atMost
  | equal
  | unequal
deriving DecidableEq

namespace Comparator

/-- Every comparison, in the order in which they are listed to readers. -/
def all : List Comparator := [.greater, .less, .atLeast, .atMost, .equal, .unequal]

/-- The tag of a comparison, which is also how it is shown. -/
def tag : Comparator → String
  | .greater => ">"
  | .less => "<"
  | .atLeast => ">="
  | .atMost => "<="
  | .equal => "=="
  | .unequal => "!="

/-- The comparison that a tag names. -/
def ofTag? (tag : String) : Option Comparator := all.find? (·.tag == tag)

/-- Whether a comparison asks for an order, which only numbers have. -/
def isOrdering : Comparator → Bool
  | .equal | .unequal => false
  | _ => true

end Comparator

/-- How the truth of a group of conditions follows from the truth of its members. -/
inductive Connective
  | all
  | any
deriving DecidableEq

namespace Connective

/-- The tag of a connective. -/
def tag : Connective → String
  | .all => "and"
  | .any => "or"

/-- The value that settles a group as soon as one member has it. -/
def settling : Connective → Bool
  | .all => false
  | .any => true

end Connective

/-- The tag of a reference to a field. -/
def fieldTag : String := "var"

/-- The tag of a choice between two outcomes. -/
def branchTag : String := "if"

/-- An operator with a list of arguments. -/
inductive Operator
  | compare (comparator : Comparator)
  | join (connective : Connective)
  | branch
deriving DecidableEq

namespace Operator

/-- The operator that a tag names. -/
def ofTag? (tag : String) : Option Operator :=
  match Comparator.ofTag? tag with
  | some comparator => some (.compare comparator)
  | none =>
    if tag = Connective.all.tag then some (.join .all)
    else if tag = Connective.any.tag then some (.join .any)
    else if tag = branchTag then some .branch
    else none

/-- The tag of an operator. -/
def tag : Operator → String
  | .compare comparator => comparator.tag
  | .join connective => connective.tag
  | .branch => branchTag

end Operator

end DeliveryRules
