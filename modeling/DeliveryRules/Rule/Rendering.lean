import DeliveryRules.Json.Printer

/-! Values shown to rule authors: scalars as they would write them, the rest as bounded JSON. -/

namespace DeliveryRules

/-- The mark that stands for a container cut off by the nesting limit. -/
def elisionMark : String := "…"

/-- A cut-off container as a value. -/
def elided : Value := .text elisionMark

/-- The document form of a node over its arguments, with only so many levels of containers. -/
def boundedNode (levels : Int) (tag : String) (arguments : Option (List Value)) : Option Value :=
  -- The object and its list of arguments are two separate levels.
  if levels ≤ 0 then some elided
  else if levels ≤ 1 then some (.object [(tag, elided)])
  else arguments.map fun items => .object [(tag, .list items)]

mutual

/-- A value in document form, with containers elided below so many levels of them. -/
def bounded (levels : Int) (value : Value) : Option Value :=
  match value with
  -- A literal shows its content, but what is built inside the content is not taken apart.
  | .condition (.literal (.condition inner)) => some (.condition inner)
  | .condition (.literal content) => bounded levels content
  | .condition (.field path) =>
    if levels ≤ 0 then some elided
    else (bounded (levels - 1) path).map fun path => .object [(fieldTag, path)]
  | .condition (.comparison comparator left right) =>
    boundedNode levels comparator.tag do
      let left ← bounded (levels - 2) left
      let right ← bounded (levels - 2) right
      return [left, right]
  -- A comparison without a resolved operator has no document form, even when it is cut off.
  | .condition (.unchecked _ _ _) => none
  | .condition (.junction connective operands) =>
    boundedNode levels connective.tag (boundedItems (levels - 2) operands)
  | .condition (.branch test accepted rejected) =>
    boundedNode levels branchTag do
      let test ← bounded (levels - 2) test
      let accepted ← bounded (levels - 2) accepted
      let rejected ← bounded (levels - 2) rejected
      return [test, accepted, rejected]
  | .object members =>
    if levels ≤ 0 then some elided else (boundedMembers (levels - 1) members).map .object
  | .list items => if levels ≤ 0 then some elided else (boundedItems (levels - 1) items).map .list
  | .tuple items => if levels ≤ 0 then some elided else (boundedItems (levels - 1) items).map .list
  | scalar => some scalar
termination_by structural value

/-- The elements of a sequence, each with so many levels of containers. -/
def boundedItems (levels : Int) (items : List Value) : Option (List Value) :=
  match items with
  | [] => some []
  | item :: rest => do
    let item ← bounded levels item
    let rest ← boundedItems levels rest
    return item :: rest
termination_by structural items

/-- The members of an object, each with so many levels of containers. -/
def boundedMembers (levels : Int) (members : List (String × Value)) :
    Option (List (String × Value)) :=
  match members with
  | [] => some []
  | (key, value) :: rest => do
    let value ← bounded levels value
    let rest ← boundedMembers levels rest
    return (key, value) :: rest
termination_by structural members

end

/-- Compact JSON of a value within a nesting limit, or only the mark where it has no such form. -/
def renderRaw (nesting : Int) (value : Value) : Except NumeralError String :=
  match bounded nesting value with
  -- What is cut off may hold numbers of any length.
  | some value => NumeralError.guard value.isWritable (Json.compact .unicode value)
  | none => .ok elisionMark

/-- A value as rule authors write it: plain text and numbers, and JSON for anything else. -/
def renderLiteral (nesting : Int) (value : Value) : Except NumeralError String :=
  match value with
  | .null => .ok "null"
  | .bool true => .ok "true"
  | .bool false => .ok "false"
  | .int n => NumeralError.guard (isShort n) (signedNumeral n)
  | .float (.finite x) => .ok x.plain
  | .float x => .ok x.text
  | .text content => .ok content
  | other => renderRaw nesting other

end DeliveryRules
