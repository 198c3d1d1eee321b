import DeliveryRules.Condition.Error

/-! Conditions built from documents: one object with one operator key for every node. -/

namespace DeliveryRules

/-- The fault of an operator whose argument is no list, or a list of the wrong length. -/
def Operator.misuse (operator : Operator) (location : Location) (found : Option Nat) :
    StructureError :=
  match operator with
  | .compare _ => .argumentCount location operator 2 found
  | .branch => .argumentCount location operator 3 found
  | .join connective => .noOperands location connective

mutual

/-- The condition a value describes at a place in a tree, with the first fault if there is one. -/
def parseAt (limit : Int) (location : Location) (depth : Int) (value : Value) :
    Except StructureError Condition :=
  -- Depth is checked before shape, so a node that is too deep reports only that.
  if limit < depth then .error (.tooDeep limit location)
  else
    match value with
    | .condition built => .ok built
    | .list _ | .tuple _ => .error (.listNode location)
    | .bytes octets => .error (.strangeNode location (Value.bytes octets).kindName)
    | .object [(tag, argument)] =>
      if tag = fieldTag then
        match argument with
        | .text path => .ok (.field (.text path))
        | other => .error (.pathNotText (some (location.under tag)) other)
      else
        match Operator.ofTag? tag with
        | none => .error (.unknownOperator location tag)
        | some operator =>
          match argument with
          | .list items => parseArguments limit location depth operator items
          | .tuple items => parseArguments limit location depth operator items
          | _ => .error (operator.misuse (location.under tag) none)
    | .object members => .error (.keyCount location (members.map Prod.fst))
    | scalar => .ok (.literal scalar)
termination_by structural value

/-- The condition of an operator and its arguments, whose number is checked first. -/
def parseArguments (limit : Int) (location : Location) (depth : Int) (operator : Operator)
    (items : List Value) : Except StructureError Condition :=
  let place := location.argument operator.tag
  match operator, items with
  | .compare comparator, [left, right] => do
    let left ← parseAt limit (place 0) (depth + 1) left
    let right ← parseAt limit (place 1) (depth + 1) right
    return .comparison comparator (.condition left) (.condition right)
  | .branch, [test, accepted, rejected] => do
    let test ← parseAt limit (place 0) (depth + 1) test
    let accepted ← parseAt limit (place 1) (depth + 1) accepted
    let rejected ← parseAt limit (place 2) (depth + 1) rejected
    return .branch (.condition test) (.condition accepted) (.condition rejected)
  | .join connective, first :: rest => do
    let first ← parseAt limit (place 0) (depth + 1) first
    let operands ← parseOperands limit location depth operator 1 rest
    return .junction connective (.condition first :: operands)
  | operator, items => .error (operator.misuse (location.under operator.tag) (some items.length))
termination_by structural items

/-- The conditions of consecutive arguments, counted from the given index. -/
def parseOperands (limit : Int) (location : Location) (depth : Int) (operator : Operator)
    (index : Nat) (items : List Value) : Except StructureError (List Value) :=
  match items with
  | [] => .ok []
  | item :: rest => do
    let operand ← parseAt limit (location.argument operator.tag index) (depth + 1) item
    let operands ← parseOperands limit location depth operator (index + 1) rest
    return .condition operand :: operands
termination_by structural items

end

/-- The condition a value describes; one that is already built is taken as it is. -/
def Value.toCondition (value : Value) (limit : Int) : Except StructureError Condition :=
  match value with
  | .condition built => .ok built
  | other => parseAt limit .root 1 other

end DeliveryRules
