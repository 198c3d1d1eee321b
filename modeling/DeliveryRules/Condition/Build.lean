import DeliveryRules.Value.Basic

/-! Short ways to build conditions, plain values becoming literals. -/

namespace DeliveryRules.Condition

/-- A reference to a field of a document. -/
def ref (path : Value) : Condition := .field path

/-- A comparison of two operands. -/
def compare (comparator : Comparator) (left right : Value) : Condition :=
  .comparison comparator left.toOperand right.toOperand

/-- A group of conditions. -/
def group (connective : Connective) (operands : List Value) : Condition :=
  .junction connective (operands.map Value.toOperand)

/-- A choice between two outcomes. -/
def choice (test accepted rejected : Value) : Condition :=
  .branch test.toOperand accepted.toOperand rejected.toOperand

end DeliveryRules.Condition
