import DeliveryRules.Condition.Operator
import DeliveryRules.Number.Binary64

/-! Values of documents and rules, and the conditions that can be built from them. -/

namespace DeliveryRules

mutual

/-- A value as callers hand it in: decoded data, which may hold built conditions at any depth. -/
inductive Value
  | null
  | bool (truth : Bool)
  | int (n : Int)
  | float (x : Binary64)
  | text (content : String)
  | bytes (octets : List UInt8)
  | list (items : List Value)
  | tuple (items : List Value)
  | object (members : List (String × Value))
  | condition (built : Condition)

/-- A built condition, whose parts are any values because building one checks nothing. -/
inductive Condition
  | literal (content : Value)
  | field (path : Value)
  | comparison (comparator : Comparator) (left right : Value)
  -- The operator of an unchecked comparison was never resolved to one of the comparisons.
  | unchecked (operator left right : Value)
  | junction (connective : Connective) (operands : List Value)
  | branch (test accepted rejected : Value)

end

/-- The members of an object, in the order in which their keys first appeared. -/
abbrev Members := List (String × Value)

instance : Inhabited Value := ⟨.null⟩

/-- A member put under its key: in place of the old one, or after all others. -/
def Members.put (members : Members) (key : String) (value : Value) : Members :=
  match members with
  | [] => [(key, value)]
  | (name, old) :: rest =>
    if name = key then (name, value) :: rest else (name, old) :: Members.put rest key value

/-- Members in the order of first appearance, each with the last value given to its key. -/
def Members.ofList (members : List (String × Value)) : Members :=
  members.foldl (fun total member => total.put member.1 member.2) []

namespace Value

/-- Whether a value can stand for itself as a condition. -/
def isScalar : Value → Bool
  | .null | .bool _ | .int _ | .float _ | .text _ => true
  | _ => false

/-- The elements of a sequence, lists and tuples being read alike. -/
def items? : Value → Option (List Value)
  | .list items | .tuple items => some items
  | _ => none

/-- The member of an object under a key. -/
def member? (key : String) : Value → Option Value
  | .object members => members.lookup key
  | _ => none

/-- The number a value is, truth values not being numbers. -/
def number? : Value → Option Number
  | .int n => some (.int n)
  | .float x => some (.float x)
  | _ => none

/-- The number a value counts as, truth values counting as one and zero. -/
def numeral? : Value → Option Number
  | .bool truth => some (.int (if truth then 1 else 0))
  | value => value.number?

/-- Whether a value counts as true: it is neither empty, nor zero, nor null. -/
def isTruthy : Value → Bool
  | .null => false
  | .bool truth => truth
  | .int n => n != 0
  | .float x => !x.isZero
  | .text content => content != ""
  | .bytes octets => !octets.isEmpty
  | .list items | .tuple items => !items.isEmpty
  | .object members => !members.isEmpty
  | .condition _ => true

/-- The word for the kind of a value, as messages name it. -/
def kindName : Value → String
  | .null => "NoneType"
  | .bool _ => "bool"
  | .int _ => "int"
  | .float _ => "float"
  | .text _ => "str"
  | .bytes _ => "bytes"
  | .list _ => "list"
  | .tuple _ => "tuple"
  | .object _ => "dict"
  | .condition (.literal _) => "Literal"
  | .condition (.field _) => "FieldRef"
  | .condition (.comparison ..) | .condition (.unchecked ..) => "Comparison"
  | .condition (.junction .all _) => "LogicalAnd"
  | .condition (.junction .any _) => "LogicalOr"
  | .condition (.branch ..) => "Branch"

/-- A value as a part of a built condition: conditions stay, anything else becomes a literal. -/
def toOperand : Value → Value
  | .condition built => .condition built
  | value => .condition (.literal value)

end Value

end DeliveryRules
