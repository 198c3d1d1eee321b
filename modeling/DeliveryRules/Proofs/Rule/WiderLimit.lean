import DeliveryRules.Proofs.Condition.Parser
import DeliveryRules.Proofs.Outcome
import DeliveryRules.Proofs.Rule.Reference
import DeliveryRules.Rule.Error
import DeliveryRules.Rule.Evaluation

/-! A wider limit leaves every answer as it was that was not refused for the depth of its tree. -/

namespace DeliveryRules

/-- Whether a fault is one of depth by the kind of its report, even if the limit is too long to be
told. -/
def StructureError.IsOfDepth (fault : StructureError) : Prop :=
  fault.report.kind = .conditionDepth

/-- Whether an error is a fault of depth. -/
def EvaluationError.IsOfDepth (error : EvaluationError) : Prop :=
  ∃ fault, error = .malformed fault ∧ fault.IsOfDepth

/-- A fault of depth is also one of depth where it stops an evaluation. -/
theorem EvaluationError.isOfDepth_malformed {fault : StructureError} (deep : fault.IsOfDepth) :
    (EvaluationError.malformed fault).IsOfDepth :=
  ⟨fault, rfl, deep⟩

section Reading

variable {limit wider depth : Int} {location : Location}

end Reading

section Evaluating

variable {limit wider : Int} {document : Value}

mutual

/-- What a tree evaluates to stays so with at least as many levels left, unless it was too deep. -/
theorem evaluateAt_kept {depth depth' : Int} (order : limit - depth ≤ wider - depth')
    (tree : Value) :
    Kept EvaluationError.IsOfDepth (evaluateAt limit document depth tree)
      (evaluateAt wider document depth' tree) := by
  -- A node that was too deep may come to anything.
  by_cases deep : limit < depth
  · rw [evaluateAt.eq_def limit, if_pos deep]
    exact .passed _ (EvaluationError.isOfDepth_malformed rfl)
  -- The levels that are left decide alone, and each step down takes one on either side.
  have shallow : ¬wider < depth' := by omega
  have below : limit - (depth + 1) ≤ wider - (depth' + 1) := by omega
  match tree with
  | .condition (.literal content) =>
    simp only [evaluateAt, if_neg deep, if_neg shallow]
    exact .same _
  | .condition (.field path) =>
    cases path <;>
    · simp only [evaluateAt, if_neg deep, if_neg shallow]
      exact .same _
  | .condition (.comparison comparator left right) =>
    simp only [evaluateAt, if_neg deep, if_neg shallow]
    -- The operands keep their values, and the comparison that of both.
    refine (evaluateAt_kept below left).bind fun _ => ?_
    exact (evaluateAt_kept below right).bind fun _ => .same _
  | .condition (.unchecked operator left right) =>
    simp only [evaluateAt, if_neg deep, if_neg shallow]
    refine (evaluateAt_kept below left).bind fun _ => ?_
    exact (evaluateAt_kept below right).bind fun _ => .same _
  | .condition (.junction connective operands) =>
    simp only [evaluateAt, if_neg deep, if_neg shallow]
    split_ifs with empty
    · exact .same _
    · exact evaluateJunction_kept below connective operands
  | .condition (.branch test accepted rejected) =>
    simp only [evaluateAt, if_neg deep, if_neg shallow]
    refine (evaluateAt_kept below test).bind fun truth => ?_
    -- The test has the same value, so the same outcome is chosen.
    split_ifs with chosen
    · exact evaluateAt_kept below accepted
    · exact evaluateAt_kept below rejected
  | .null | .bool _ | .int _ | .float _ | .text _ | .bytes _ | .list _ | .tuple _ | .object _ =>
    simp only [evaluateAt, if_neg deep, if_neg shallow]
    exact .same _
termination_by sizeOf tree

/-- A group is settled where it was with at least as many levels left, unless it was too deep. -/
theorem evaluateJunction_kept {depth depth' : Int} (order : limit - depth ≤ wider - depth')
    (connective : Connective) (operands : List Value) :
    Kept EvaluationError.IsOfDepth (evaluateJunction limit document depth connective operands)
      (evaluateJunction wider document depth' connective operands) := by
  match operands with
  | [] => exact .same _
  | operand :: rest =>
    simp only [evaluateJunction]
    refine (evaluateAt_kept order operand).bind fun value => ?_
    -- The member keeps its value, so it settles the group where it did.
    split_ifs with settled
    · exact .same _
    · exact evaluateJunction_kept order connective rest
termination_by sizeOf operands

end

end Evaluating

section Collecting

mutual

/-- With more levels to visit, the references found are those found before and perhaps others. -/
theorem collectFields_sublist {levels more : Int} (order : levels ≤ more) (tree : Value) :
    (collectFields levels tree).Sublist (collectFields more tree) := by
  by_cases spent : levels < 1
  · rw [collectFields_of_spent spent]
    exact List.nil_sublist _
  have visited : ¬more < 1 := by omega
  -- A member or an item takes one level, an operand of a built node two.
  have below : levels - 1 ≤ more - 1 := by omega
  have lower : levels - 2 ≤ more - 2 := by omega
  match tree with
  | .condition (.comparison _ left right) | .condition (.unchecked _ left right) =>
    simp only [collectFields, if_neg spent, if_neg visited]
    exact (collectFields_sublist lower left).append (collectFields_sublist lower right)
  | .condition (.junction _ operands) =>
    simp only [collectFields, if_neg spent, if_neg visited]
    exact collectItems_sublist lower operands
  | .condition (.branch test accepted rejected) =>
    simp only [collectFields, if_neg spent, if_neg visited]
    exact ((collectFields_sublist lower test).append (collectFields_sublist lower accepted)).append
      (collectFields_sublist lower rejected)
  | .object members =>
    simp only [collectFields, if_neg spent, if_neg visited]
    exact collectMembers_sublist below members
  | .list items | .tuple items =>
    simp only [collectFields, if_neg spent, if_neg visited]
    exact collectItems_sublist below items
  | .condition (.field path) =>
    cases path <;> simp [collectFields, spent, visited]
  | .condition (.literal _) | .null | .bool _ | .int _ | .float _ | .text _ | .bytes _ =>
    simp [collectFields]
termination_by sizeOf tree

/-- With more levels to visit, the references below some items are those before and others. -/
theorem collectItems_sublist {levels more : Int} (order : levels ≤ more) (items : List Value) :
    (collectItems levels items).Sublist (collectItems more items) := by
  match items with
  | [] => exact .slnil
  | item :: rest =>
    exact (collectFields_sublist order item).append (collectItems_sublist order rest)
termination_by sizeOf items

/-- With more levels to visit, the references below some members are those before and others. -/
theorem collectMembers_sublist {levels more : Int} (order : levels ≤ more)
    (members : List (String × Value)) :
    (collectMembers levels members).Sublist (collectMembers more members) := by
  match members with
  | [] => exact .slnil
  | (key, value) :: rest =>
    unfold collectMembers
    refine List.Sublist.append ?_ (collectMembers_sublist order rest)
    -- A reference is found by itself, and any other member is visited.
    split
    · exact .refl _
    · exact collectFields_sublist order value
termination_by sizeOf members

end

end Collecting

end DeliveryRules
