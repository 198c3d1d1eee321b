import DeliveryRules.Rule.Rendering

/-! Sentences that say what a rule does; what cannot be put into words is shown as JSON. -/

namespace DeliveryRules

/-- The word between the members of a group. -/
def Connective.joiner : Connective → String
  | .all => " and "
  | .any => " or "

/-- A comparison in words. -/
def comparisonSentence (comparator : Comparator) (left right : String) : String :=
  left ++ " " ++ comparator.tag ++ " " ++ right

/-- A choice in words. -/
def branchSentence (test accepted rejected : String) : String :=
  "If " ++ test ++ " → " ++ accepted ++ ", otherwise → " ++ rejected

/-- Why there is no sentence for a tree. -/
inductive SentenceError
  -- A comparison whose operator was never resolved has no tag to be named by.
  | uncheckedOperator
  | numeral (reason : NumeralError)
deriving DecidableEq

/-- A text shown as it is in a sentence, if it is one. -/
def shown (text : Except NumeralError String) : Except SentenceError String :=
  text.mapError .numeral

mutual

/-- The sentence for a tree at a depth, which stops at the first part that has none. -/
def explainAt (limit nesting depth : Int) (tree : Value) : Except SentenceError String :=
  if limit < depth then shown (renderRaw nesting tree)
  else
    match tree with
    | .condition (.literal content) => shown (renderLiteral nesting content)
    | .condition (.field (.text path)) => .ok path
    | .condition (.comparison comparator left right) => do
      let left ← explainAt limit nesting (depth + 1) left
      let right ← explainAt limit nesting (depth + 1) right
      return comparisonSentence comparator left right
    | .condition (.unchecked _ _ _) => .error .uncheckedOperator
    | .condition (.junction connective operands) =>
      if operands.isEmpty then shown (renderRaw nesting tree)
      else do
        let sentences ← explainItems limit nesting (depth + 1) operands
        return connective.joiner.intercalate sentences
    | .condition (.branch test accepted rejected) => do
      let test ← explainAt limit nesting (depth + 1) test
      let accepted ← explainAt limit nesting (depth + 1) accepted
      let rejected ← explainAt limit nesting (depth + 1) rejected
      return branchSentence test accepted rejected
    | .object [(tag, .text path)] =>
      if tag = fieldTag then .ok path else shown (renderRaw nesting tree)
    | .object [(tag, .list items)] =>
      explainArguments limit nesting depth tree (Operator.ofTag? tag) items
    | .object [(tag, .tuple items)] =>
      explainArguments limit nesting depth tree (Operator.ofTag? tag) items
    | other =>
      shown (if other.isScalar then renderLiteral nesting other else renderRaw nesting other)
termination_by structural tree

/-- The sentence for an operator and its arguments, or JSON where their number is wrong. -/
def explainArguments (limit nesting depth : Int) (tree : Value) (operator : Option Operator)
    (items : List Value) : Except SentenceError String :=
  match operator, items with
  | some (.compare comparator), [left, right] => do
    let left ← explainAt limit nesting (depth + 1) left
    let right ← explainAt limit nesting (depth + 1) right
    return comparisonSentence comparator left right
  | some (.join connective), first :: rest => do
    let first ← explainAt limit nesting (depth + 1) first
    let rest ← explainItems limit nesting (depth + 1) rest
    return connective.joiner.intercalate (first :: rest)
  | some .branch, [test, accepted, rejected] => do
    let test ← explainAt limit nesting (depth + 1) test
    let accepted ← explainAt limit nesting (depth + 1) accepted
    let rejected ← explainAt limit nesting (depth + 1) rejected
    return branchSentence test accepted rejected
  | _, _ => shown (renderRaw nesting tree)
termination_by structural items

/-- The sentences for consecutive members of a group. -/
def explainItems (limit nesting depth : Int) (items : List Value) :
    Except SentenceError (List String) :=
  match items with
  | [] => .ok []
  | item :: rest => do
    let item ← explainAt limit nesting depth item
    let rest ← explainItems limit nesting depth rest
    return item :: rest
termination_by structural items

end

/-- The sentence for a tree down to a depth, JSON below it being nested within its own limit. -/
def explain (limit nesting : Int) (tree : Value) : Except SentenceError String :=
  explainAt limit nesting 1 tree

end DeliveryRules
