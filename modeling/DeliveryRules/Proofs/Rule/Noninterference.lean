import DeliveryRules.Proofs.Path.Lexeme
import DeliveryRules.Proofs.Rule.Reference
import DeliveryRules.Rule.Evaluation

/-! A rule that is valid for a category reads nothing of a document outside the category. -/

namespace DeliveryRules

/-- Whether two documents hold the same values at some paths, missing ones counting as null. -/
def AgreeOn (paths : List String) (first second : Value) : Prop :=
  ∀ path ∈ paths, referenceValue first path = referenceValue second path

/-- Agreement on two runs of paths is agreement on each of them. -/
theorem agreeOn_append {paths others : List String} {first second : Value} :
    AgreeOn (paths ++ others) first second ↔
      AgreeOn paths first second ∧ AgreeOn others first second :=
  List.forall_mem_append

/-- The value of a reference is what its path leads to, or null. -/
theorem referenceValue_eq_map (document : Value) (path : String) :
    referenceValue document path =
      ((resolvePath document path).map (·.getD .null)).mapError .numeral := by
  unfold referenceValue
  cases resolvePath document path <;> rfl

section Reading

variable {first second : Value}

/-- The levels of references left for a node at a depth, if a limit of nodes is to be covered. -/
def levelsAt (limit depth : Int) : Int := 2 * (limit - depth + 1)

/-- A node within the limit is visited by the collection of references. -/
theorem levelsAt_visited {limit depth : Int} (shallow : ¬limit < depth) :
    ¬levelsAt limit depth < 1 := by
  unfold levelsAt
  omega

/-- Going down one node takes two levels. -/
theorem levelsAt_below (limit depth : Int) :
    levelsAt limit depth - 2 = levelsAt limit (depth + 1) := by
  unfold levelsAt
  omega

mutual

/-- A tree has one outcome on documents that agree on every reference within the limit. -/
theorem evaluateAt_congr (limit depth : Int) (tree : Value)
    (agree : AgreeOn (collectFields (levelsAt limit depth) tree) first second) :
    evaluateAt limit first depth tree = evaluateAt limit second depth tree := by
  by_cases deep : limit < depth
  · -- Nothing is read of a document for a node that is too deep.
    unfold evaluateAt
    rw [if_pos deep, if_pos deep]
  have visited := levelsAt_visited deep
  match tree, agree with
  | .condition (.literal content), _ => simp only [evaluateAt]
  | .condition (.field path), agree =>
    cases path with
    | text path =>
      -- The reference is visited, so both documents agree on it.
      have read := agree path (by simp [collectFields, visited])
      simp only [evaluateAt, read]
    | _ => simp only [evaluateAt]
  | .condition (.comparison comparator left right), agree =>
    rw [collectFields, if_neg visited, levelsAt_below, agreeOn_append] at agree
    -- The references of a comparison are those of both operands.
    have leftSame := evaluateAt_congr limit (depth + 1) left agree.1
    have rightSame := evaluateAt_congr limit (depth + 1) right agree.2
    simp only [evaluateAt, leftSame, rightSame]
  | .condition (.unchecked operator left right), agree =>
    rw [collectFields, if_neg visited, levelsAt_below, agreeOn_append] at agree
    have leftSame := evaluateAt_congr limit (depth + 1) left agree.1
    have rightSame := evaluateAt_congr limit (depth + 1) right agree.2
    simp only [evaluateAt, leftSame, rightSame]
  | .condition (.junction connective operands), agree =>
    rw [collectFields, if_neg visited, levelsAt_below] at agree
    have same := evaluateJunction_congr limit (depth + 1) connective operands agree
    simp only [evaluateAt, same]
  | .condition (.branch test accepted rejected), agree =>
    rw [collectFields, if_neg visited, levelsAt_below, agreeOn_append, agreeOn_append] at agree
    -- Both outcomes are covered, so it does not matter which of them is chosen.
    have testSame := evaluateAt_congr limit (depth + 1) test agree.1.1
    have acceptedSame := evaluateAt_congr limit (depth + 1) accepted agree.1.2
    have rejectedSame := evaluateAt_congr limit (depth + 1) rejected agree.2
    simp only [evaluateAt, testSame, acceptedSame, rejectedSame]
  | .null, _ | .bool _, _ | .int _, _ | .float _, _ | .text _, _ | .bytes _, _ | .list _, _
  | .tuple _, _ | .object _, _ => simp only [evaluateAt]
termination_by sizeOf tree

/-- A group has one outcome on documents that agree on the references below all its members. -/
theorem evaluateJunction_congr (limit depth : Int) (connective : Connective)
    (operands : List Value)
    (agree : AgreeOn (collectItems (levelsAt limit depth) operands) first second) :
    evaluateJunction limit first depth connective operands =
      evaluateJunction limit second depth connective operands := by
  match operands, agree with
  | [], _ => rfl
  | operand :: rest, agree =>
    -- The group is settled at the same member, since that one has the same outcome.
    rw [collectItems, agreeOn_append] at agree
    have operandSame := evaluateAt_congr limit depth operand agree.1
    have restSame := evaluateJunction_congr limit depth connective rest agree.2
    simp only [evaluateJunction, operandSame, restSame]
termination_by sizeOf operands

end

end Reading

/-- A tree has one outcome on documents that agree on everything it is found to refer to. -/
theorem evaluate_congr {limit : Int} {tree first second : Value}
    (agree : AgreeOn (referencedFields limit tree) first second) :
    evaluate limit tree first = evaluate limit tree second := by
  have top : levelsAt limit 1 = 2 * limit := by
    unfold levelsAt
    omega
  unfold referencedFields at agree
  rw [← top] at agree
  -- A tree that is not read has the same fault on every document.
  unfold evaluate
  cases read : tree.toCondition limit with
  | error fault => rfl
  | ok built =>
    refine evaluateAt_congr limit 1 (.condition built) ?_
    by_cases assembled : ∃ condition, tree = .condition condition
    · obtain ⟨condition, rfl⟩ := assembled
      cases read
      exact agree
    · -- What was read refers to the same fields as the condition that it was read as.
      have described := (toCondition_iff (not_exists.mp assembled)).mp read
      rwa [described.collectFields_eq] at agree

/-- A rule that is valid for a category has one outcome on documents that agree on its fields. -/
theorem evaluate_eq_of_valid {limit : Int} {catalog : Catalog} {category : Category}
    {tree first second : Value}
    (valid : (validate limit catalog category tree).isValid = true)
    (agree : ∀ path, normalizePath path ∈ catalog.pathsFor category →
      (resolvePath first path).map (·.getD .null) = (resolvePath second path).map (·.getD .null)) :
    evaluate limit tree first = evaluate limit tree second := by
  refine evaluate_congr fun path referred => ?_
  -- The check has found every path that is referred to in the category.
  have same := agree path (isValid_iff.mp valid path referred)
  rw [referenceValue_eq_map, referenceValue_eq_map, same]

/-- A valid choice by the preferred provider does not depend on what else an order says. -/
theorem evaluate_eq_of_valid_preferredProvider :
    let catalog : Catalog :=
      ⟨[⟨"preferred_provider", [.providerSelection], [], none, none⟩], schemaVersion, none⟩
    let tree : Value :=
      .object [("==", .list [.object [("var", .text "preferred_provider")], .text "uber"])]
    let order (tip : Int) : Value :=
      .object [("preferred_provider", .text "uber"), ("tip", .int tip)]
    (validate 8 catalog .providerSelection tree).isValid = true ∧
      evaluate 8 tree (order 600) = evaluate 8 tree (order 1800) := by
  intro catalog tree order
  have valid : (validate 8 catalog .providerSelection tree).isValid = true := by decide
  refine ⟨valid, evaluate_eq_of_valid valid fun path allowed => ?_⟩
  -- The only path of the category has no index, so no other path is normal to it.
  have listed : normalizePath path = "preferred_provider" := List.mem_singleton.mp allowed
  rw [eq_of_normalizePath (by decide) listed]
  -- The tip is never looked at.
  have found : ∀ tip, resolvePath (order tip) "preferred_provider" = .ok (some (.text "uber")) :=
    fun _ => rfl
  rw [found, found]

end DeliveryRules
