import DeliveryRules.Path.Segment
import DeliveryRules.Value.Basic

/-! Values found in a document by following a field path. -/

namespace DeliveryRules

/-- The element of a sequence at an index, a byte string being a sequence of numbers. -/
def Value.element? (n : Nat) : Value → Option Value
  | .list items | .tuple items => items[n]?
  | .bytes octets => octets[n]?.map fun octet => .int (Int.ofNat octet.toNat)
  | _ => none

/-- The value one step away, which a wildcard never singles out. -/
def Segment.follow? (segment : Segment) (value : Value) : Option Value :=
  match segment with
  | .key name => value.member? name
  | .index n => value.element? n
  | .wildcard => none

/-- The value a sequence of steps away. -/
def followSegments? (document : Value) (segments : List Segment) : Option Value :=
  segments.foldlM (fun value segment => segment.follow? value) document

/-- The value a path leads to, if the path is well formed and every step of it exists. -/
def resolvePath (document : Value) (path : String) : Except NumeralError (Option Value) :=
  -- A malformed path is not cut into segments, so that its indexes do not matter.
  if isWellFormedPath path then (splitPath path).map (followSegments? document) else .ok none

end DeliveryRules
