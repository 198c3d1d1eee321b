import DeliveryRules.Value.Basic

/-! The field paths a tree refers to, read from documents and built conditions alike. -/

namespace DeliveryRules

mutual

/-- The paths below a value, in the order of the tree, while levels are left to visit. -/
def collectFields (levels : Int) (tree : Value) : List String :=
  if levels < 1 then []
  else
    match tree with
    | .condition (.field (.text path)) => [path]
    -- A node stands for the two levels of its document form, the object and its arguments.
    | .condition (.comparison _ left right) =>
      collectFields (levels - 2) left ++ collectFields (levels - 2) right
    | .condition (.unchecked _ left right) =>
      collectFields (levels - 2) left ++ collectFields (levels - 2) right
    | .condition (.junction _ operands) => collectItems (levels - 2) operands
    | .condition (.branch test accepted rejected) =>
      collectFields (levels - 2) test ++ collectFields (levels - 2) accepted ++
        collectFields (levels - 2) rejected
    | .object members => collectMembers (levels - 1) members
    | .list items => collectItems (levels - 1) items
    | .tuple items => collectItems (levels - 1) items
    | _ => []
termination_by structural tree

/-- The paths below the elements of a sequence. -/
def collectItems (levels : Int) (items : List Value) : List String :=
  match items with
  | [] => []
  | item :: rest => collectFields levels item ++ collectItems levels rest
termination_by structural items

/-- The paths below the members of an object, one with the tag of a reference being a path. -/
def collectMembers (levels : Int) (members : List (String × Value)) : List String :=
  match members with
  | [] => []
  | (key, value) :: rest =>
    let found :=
      match value with
      | .text path => if key = fieldTag then [path] else []
      | other => collectFields levels other
    found ++ collectMembers levels rest
termination_by structural members

end

/-- The paths a tree refers to, in order and with repetitions, down to a depth of nodes. -/
def referencedFields (limit : Int) (tree : Value) : List String := collectFields (2 * limit) tree

end DeliveryRules
