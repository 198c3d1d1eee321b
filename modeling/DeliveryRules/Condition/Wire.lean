import DeliveryRules.Value.Basic

/-! Conditions written back as documents, in the form they are read from. -/

namespace DeliveryRules

/-- Why a condition has no document form. -/
inductive WireError
  -- An operator that was never resolved to a comparison has no tag.
  | uncheckedOperator
  -- Only built conditions can stand as parts of one that is written.
  | rawOperand
deriving DecidableEq

mutual

/-- The document form of a condition. -/
def Condition.toWire : Condition → Except WireError Value
  | .literal content => .ok content
  | .field path => .ok (.object [(fieldTag, path)])
  | .comparison comparator left right => do
    let left ← operandWire left
    let right ← operandWire right
    return .object [(comparator.tag, .list [left, right])]
  | .unchecked _ _ _ => .error .uncheckedOperator
  | .junction connective operands => do
    let operands ← operandsWire operands
    return .object [(connective.tag, .list operands)]
  | .branch test accepted rejected => do
    let test ← operandWire test
    let accepted ← operandWire accepted
    let rejected ← operandWire rejected
    return .object [(branchTag, .list [test, accepted, rejected])]
termination_by structural condition => condition

/-- The document form of a part of a condition. -/
def operandWire : Value → Except WireError Value
  | .condition built => built.toWire
  | _ => .error .rawOperand
termination_by structural value => value

/-- The document forms of the members of a group. -/
def operandsWire : List Value → Except WireError (List Value)
  | [] => .ok []
  | operand :: rest => do
    let operand ← operandWire operand
    let rest ← operandsWire rest
    return operand :: rest
termination_by structural operands => operands

end

/-- The document form of a value: a built condition is written, anything else stays as it is. -/
def Value.toWire : Value → Except WireError Value
  | .condition built => built.toWire
  | value => .ok value

end DeliveryRules
