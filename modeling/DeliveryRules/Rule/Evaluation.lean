import DeliveryRules.Condition.Parser
import DeliveryRules.Path.Resolve
import DeliveryRules.Value.Equality

/-! Conditions evaluated against a document, fields that are missing counting as null. -/

namespace DeliveryRules

/-- Why a condition has no value. -/
inductive EvaluationError
  | malformed (fault : StructureError)
  -- A comparison whose operator was never resolved cannot be applied.
  | uncheckedOperator
  -- An index of a path has too many digits to be read.
  | numeral (reason : NumeralError)

/-- The value that a reference comes to, null where the document has none. -/
def referenceValue (document : Value) (path : String) : Except EvaluationError Value :=
  match resolvePath document path with
  | .ok found => .ok (found.getD .null)
  | .error reason => .error (.numeral reason)

mutual

/-- The value of a condition that stands at a depth of a tree. -/
def evaluateAt (limit : Int) (document : Value) (depth : Int) (tree : Value) :
    Except EvaluationError Value :=
  if limit < depth then .error (.malformed (.tooDeep limit none))
  else
    match tree with
    | .condition (.literal content) => .ok content
    | .condition (.field (.text path)) => referenceValue document path
    | .condition (.field path) => .error (.malformed (.pathNotText none path))
    | .condition (.comparison comparator left right) => do
      let left ← evaluateAt limit document (depth + 1) left
      let right ← evaluateAt limit document (depth + 1) right
      return .bool (comparator.holds left right)
    | .condition (.unchecked _ left right) => do
      -- Both operands are evaluated before the operator is looked at.
      let _ ← evaluateAt limit document (depth + 1) left
      let _ ← evaluateAt limit document (depth + 1) right
      .error .uncheckedOperator
    | .condition (.junction connective operands) =>
      if operands.isEmpty then .error (.malformed (.emptyJunction connective))
      else evaluateJunction limit document (depth + 1) connective operands
    | .condition (.branch test accepted rejected) => do
      let test ← evaluateAt limit document (depth + 1) test
      -- The outcome that is not chosen is never evaluated.
      if test.isTruthy then evaluateAt limit document (depth + 1) accepted
      else evaluateAt limit document (depth + 1) rejected
    | other => .error (.malformed (.notBuilt other.kindName))
termination_by structural tree

/-- The truth of a group, whose members are evaluated only until one of them settles it. -/
def evaluateJunction (limit : Int) (document : Value) (depth : Int) (connective : Connective)
    (operands : List Value) : Except EvaluationError Value :=
  match operands with
  | [] => .ok (.bool (!connective.settling))
  | operand :: rest => do
    let value ← evaluateAt limit document depth operand
    if value.isTruthy == connective.settling then return .bool connective.settling
    else evaluateJunction limit document depth connective rest
termination_by structural operands

end

/-- A tree evaluated against a document, documents being parsed first. -/
def evaluate (limit : Int) (tree document : Value) : Except EvaluationError Value :=
  match tree.toCondition limit with
  | .error fault => .error (.malformed fault)
  | .ok built => evaluateAt limit document 1 (.condition built)

/-- Whether a tree comes out true on a document. -/
def check (limit : Int) (tree document : Value) : Except EvaluationError Bool :=
  (evaluate limit tree document).map Value.isTruthy

end DeliveryRules
