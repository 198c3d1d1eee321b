import DeliveryRules.Text.Numeral

/-! The paths a catalog may declare: dotted names, each with any number of bare bracket pairs. -/

namespace DeliveryRules

/-- Whether a character can start a name. -/
def isNameStart (c : Char) : Bool :=
  ('a' ≤ c && c ≤ 'z') || ('A' ≤ c && c ≤ 'Z') || c == '_'

/-- Whether a character can continue a name. -/
def isNameChar (c : Char) : Bool := isNameStart c || isAsciiDigit c

/-- What may come next in a declared path. -/
inductive DeclaredState
  | start
  | inName
  | opened
  | closed
  | broken
deriving DecidableEq

namespace DeclaredState

/-- One character of a declared path read. -/
def next (state : DeclaredState) (c : Char) : DeclaredState :=
  match state with
  | .start => if isNameStart c then .inName else .broken
  | .inName =>
    if isNameChar c then .inName else if c = '[' then .opened else if c = '.' then .start
    else .broken
  | .opened => if c = ']' then .closed else .broken
  | .closed => if c = '[' then .opened else if c = '.' then .start else .broken
  | .broken => .broken

/-- Whether a declared path may end here. -/
def accepts : DeclaredState → Bool
  | .inName | .closed => true
  | _ => false

end DeclaredState

/-- Whether characters are dotted names with bracket pairs, and nothing else. -/
def isDottedName (path : List Char) : Bool := (path.foldl DeclaredState.next .start).accepts

/-- Whether a catalog may declare a path; one line break after the path is let through. -/
def isDeclaredPath (path : String) : Bool :=
  let chars := path.toList
  isDottedName chars ||
    (chars.getLast? == some '\n' && isDottedName chars.dropLast)

end DeliveryRules
