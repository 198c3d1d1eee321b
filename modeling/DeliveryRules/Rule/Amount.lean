import DeliveryRules.Number.Fixed
import DeliveryRules.Value.Basic

/-! The amount of an order in dollars and cents. -/

namespace DeliveryRules

/-- Why the amount of an order cannot be told. -/
inductive AmountError
  | notAnObject
  | notANumber
  | tooLarge
deriving DecidableEq

/-- A hundredth of a number, rounded to the nearest floating-point one. -/
def hundredth : Number → Except AmountError Binary64
  | .float x => .ok (x.divideBy 100)
  | .int n =>
    match Binary64.ofRatio (n < 0) n.natAbs 100 with
    | .infinity _ => .error .tooLarge
    | x => .ok x

/-- A member of an object, with a value to use where it is missing. -/
def memberOr (missing : Value) (key : String) : Value → Except AmountError Value
  | .object members => .ok ((members.lookup key).getD missing)
  | _ => .error .notAnObject

/-- The amount of an order in dollars, from its value in cents. -/
def orderAmount (document : Value) : Except AmountError String := do
  let order ← memberOr (.object []) "order" document
  let cents ← memberOr (.int 0) "order_value" order
  match cents.numeral? with
  | some number => return "$" ++ (← hundredth number).fixed
  | none => .error .notANumber

end DeliveryRules
