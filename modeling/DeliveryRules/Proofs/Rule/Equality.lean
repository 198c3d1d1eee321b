import DeliveryRules.Proofs.Outcome
import DeliveryRules.Proofs.Rule.Evaluation
import DeliveryRules.Proofs.Value.PartialEquivalence

/-! A rule cannot tell documents apart that are the same data, however they are written. -/

namespace DeliveryRules

mutual

/-- Whether every literal of a condition is a scalar, and a defined one. -/
def Condition.hasDefinedLiterals : Condition → Bool
  | .literal content => content.isScalar && !content.isUndefined
  | .field _ => true
  | .comparison _ left right => left.hasDefinedLiterals && right.hasDefinedLiterals
  | .unchecked _ left right => left.hasDefinedLiterals && right.hasDefinedLiterals
  | .junction _ operands => haveDefinedLiterals operands
  | .branch test accepted rejected =>
    test.hasDefinedLiterals && accepted.hasDefinedLiterals && rejected.hasDefinedLiterals
termination_by structural condition => condition

/-- Whether every literal of a built condition is defined; other values have no literals. -/
def Value.hasDefinedLiterals : Value → Bool
  | .condition built => built.hasDefinedLiterals
  | _ => true
termination_by structural value => value

/-- Whether every literal of some operands is defined. -/
def haveDefinedLiterals : List Value → Bool
  | [] => true
  | operand :: rest => operand.hasDefinedLiterals && haveDefinedLiterals rest
termination_by structural operands => operands

end

/-- A reference has values that are alike in documents that are, null standing for a missing one. -/
theorem Alike.referenceValue {first second : Value} (alike : Alike first second) (path : String) :
    Corresponds Alike (DeliveryRules.referenceValue first path)
      (DeliveryRules.referenceValue second path) := by
  rw [referenceValue_eq, referenceValue_eq]
  -- Whether a path can be followed does not depend on the document.
  split_ifs with followable
  · have found := alike.resolvePath? path
    generalize DeliveryRules.resolvePath? first path = here,
      DeliveryRules.resolvePath? second path = there at found
    cases found with
    | none => exact .ok .null
    | some values => exact .ok values
  · exact .error _

section Reading

variable {first second : Value}

mutual

/-- A tree with defined literals gives values that are alike on documents that are, or one fault. -/
theorem evaluateAt_alike (limit depth : Int) (tree : Value) (alike : Alike first second)
    (defined : tree.hasDefinedLiterals = true) :
    Corresponds Alike (evaluateAt limit first depth tree) (evaluateAt limit second depth tree) := by
  -- A node that is too deep fails alike on both sides.
  by_cases deep : limit < depth
  · unfold evaluateAt
    rw [if_pos deep, if_pos deep]
    exact .error _
  match tree, defined with
  | .condition (.literal content), defined =>
    simp only [Value.hasDefinedLiterals, Condition.hasDefinedLiterals, Bool.and_eq_true,
      Bool.not_eq_true'] at defined
    simp only [evaluateAt, if_neg deep]
    -- A literal is a defined scalar, and so alike to itself.
    exact .ok (Value.alike_self defined.1 defined.2)
  | .condition (.field path), defined =>
    cases path with
    | text path =>
      simp only [evaluateAt, if_neg deep]
      exact alike.referenceValue path
    | _ =>
      simp only [evaluateAt, if_neg deep]
      exact .error _
  | .condition (.comparison comparator left right), defined =>
    simp only [Value.hasDefinedLiterals, Condition.hasDefinedLiterals, Bool.and_eq_true] at defined
    simp only [evaluateAt, if_neg deep]
    -- The operands have alike values, or the first that fails does so on both sides.
    refine (evaluateAt_alike limit (depth + 1) left alike defined.1).bind fun a a' leftAlike => ?_
    refine (evaluateAt_alike limit (depth + 1) right alike defined.2).bind fun b b' rightAlike => ?_
    -- No comparison tells alike values apart.
    rw [leftAlike.holds_eq rightAlike]
    exact .ok (.bool _)
  | .condition (.unchecked operator left right), defined =>
    simp only [Value.hasDefinedLiterals, Condition.hasDefinedLiterals, Bool.and_eq_true] at defined
    simp only [evaluateAt, if_neg deep]
    refine (evaluateAt_alike limit (depth + 1) left alike defined.1).bind fun _ _ _ => ?_
    refine (evaluateAt_alike limit (depth + 1) right alike defined.2).bind fun _ _ _ => ?_
    exact .error _
  | .condition (.junction connective operands), defined =>
    simp only [evaluateAt, if_neg deep]
    split_ifs with empty
    · exact .error _
    · exact evaluateJunction_alike limit (depth + 1) connective operands alike defined
  | .condition (.branch test accepted rejected), defined =>
    simp only [Value.hasDefinedLiterals, Condition.hasDefinedLiterals, Bool.and_eq_true] at defined
    simp only [evaluateAt, if_neg deep]
    refine (evaluateAt_alike limit (depth + 1) test alike defined.1.1).bind fun a a' testAlike => ?_
    -- Both tests count as true or neither does, so the same outcome is chosen.
    rw [testAlike.isTruthy_eq]
    split_ifs with truth
    · exact evaluateAt_alike limit (depth + 1) accepted alike defined.1.2
    · exact evaluateAt_alike limit (depth + 1) rejected alike defined.2
  | .null, _ | .bool _, _ | .int _, _ | .float _, _ | .text _, _ | .bytes _, _ | .list _, _
  | .tuple _, _ | .object _, _ =>
    simp only [evaluateAt, if_neg deep]
    exact .error _
termination_by sizeOf tree

/-- A group is settled at the same member on documents that are alike. -/
theorem evaluateJunction_alike (limit depth : Int) (connective : Connective)
    (operands : List Value) (alike : Alike first second)
    (defined : haveDefinedLiterals operands = true) :
    Corresponds Alike (evaluateJunction limit first depth connective operands)
      (evaluateJunction limit second depth connective operands) := by
  match operands, defined with
  | [], _ => exact .ok (.bool _)
  | operand :: rest, defined =>
    simp only [haveDefinedLiterals, Bool.and_eq_true] at defined
    simp only [evaluateJunction]
    refine (evaluateAt_alike limit depth operand alike defined.1).bind fun a a' operandAlike => ?_
    -- The member settles both groups or neither.
    rw [operandAlike.isTruthy_eq]
    split_ifs with settled
    · exact .ok (.bool _)
    · exact evaluateJunction_alike limit depth connective rest alike defined.2
termination_by sizeOf operands

end

end Reading

/-- A tree with defined literals gives values that are alike on documents that are, or one fault. -/
theorem evaluate_alike {limit : Int} {tree first second : Value} (alike : Alike first second)
    (defined : ∀ built, tree.toCondition limit = .ok built → built.hasDefinedLiterals = true) :
    Corresponds Alike (evaluate limit tree first) (evaluate limit tree second) := by
  unfold evaluate
  -- Reading the tree does not look at the document.
  cases read : tree.toCondition limit with
  | error fault => exact .error _
  | ok built => exact evaluateAt_alike limit 1 (.condition built) alike (defined built read)

/--
A rule has equal values on equal documents, or fails with one and the same fault on both.

Of the tree it only counts what it is read as: its literals are scalars, none of them undefined.
Whatever is equal to a document is a document as well.
-/
theorem evaluate_equal {limit : Int} {tree first second : Value}
    (defined : ∀ built, tree.toCondition limit = .ok built → built.hasDefinedLiterals = true)
    (document : first.isDocument = true) (equal : first.equal second = true) :
    Corresponds (fun a b => a.equal b = true) (evaluate limit tree first)
        (evaluate limit tree second) ∧
      check limit tree first = check limit tree second := by
  -- Documents that are equal are alike, and what comes of them is as well.
  have outcomes := evaluate_alike (Value.alike_of_equal document equal) defined
  constructor
  · exact outcomes.imp fun _ _ alike => alike.equal
  · exact outcomes.map_eq fun _ _ alike => alike.isTruthy_eq

/-- An order written with other keys first, floats and tuples has its items written otherwise. -/
theorem evaluate_equal_rewritten :
    let tree : Value := .object [("if", .list [.object [("==", .list
      [.object [("var", .text "order.tip")], .int 1])], .object [("var", .text "order.items")],
      .null])]
    let first : Value := .object [("id", .text "7"),
      ("order", .object [("tip", .int 1), ("items", .list [.int 2, .bool true])])]
    let second : Value := .object [("order", .object
      [("items", .tuple [.float (.ofInt 2), .bool true]), ("tip", .float (.ofInt 1))]),
      ("id", .text "7")]
    first.isDocument = true ∧ first.equal second = true ∧
      evaluate 3 tree first = .ok (.list [.int 2, .bool true]) ∧
      evaluate 3 tree second = .ok (.tuple [.float (.ofInt 2), .bool true]) ∧
      Corresponds (fun a b => a.equal b = true) (evaluate 3 tree first) (evaluate 3 tree second) ∧
      check 3 tree first = check 3 tree second := by
  intro tree first second
  have document : first.isDocument = true := by decide
  have equal : first.equal second = true := by decide
  refine ⟨document, equal, rfl, rfl, evaluate_equal (fun built read => ?_) document equal⟩
  -- The only literals are a number and null.
  cases read
  rfl

end DeliveryRules
