import DeliveryRules.Proofs.Condition.Parser
import DeliveryRules.Proofs.Rule.Explanation
import DeliveryRules.Rule.Error

/-! A rule that has no value is malformed, or applies an operator that was never resolved. -/

namespace DeliveryRules

/-- Whether an error is reported as a condition that is invalid, or as a special case of that. -/
def EvaluationError.IsStructural (error : EvaluationError) : Prop :=
  ∃ report, error.toRuleError.report? = some report ∧
    ReportKind.invalidCondition ∈ report.kind.lineage

/-- Whether an error comes from a number that is too long, to be read or to be told. -/
def EvaluationError.IsOfLength : EvaluationError → Prop
  | .malformed fault => fault.isTellable = false
  | .uncheckedOperator => False
  | .numeral _ => True

/-- A fault of structure that can be told is reported as one, those of depth as a special case. -/
theorem EvaluationError.isStructural_malformed {fault : StructureError} :
    (EvaluationError.malformed fault).IsStructural ↔ fault.isTellable = true := by
  constructor
  · -- An error that cannot be told has no report at all.
    rintro ⟨report, reported, _⟩
    by_contra untold
    simp [toRuleError, RuleError.report?, StructureError.report?, untold] at reported
  · intro told
    have reported : (EvaluationError.malformed fault).toRuleError.report? = some fault.report := by
      simp [toRuleError, RuleError.report?, StructureError.report?, told]
    refine ⟨fault.report, reported, ?_⟩
    -- Depth is a special case of an invalid condition.
    show ReportKind.invalidCondition ∈ fault.reportKind.lineage
    unfold StructureError.reportKind
    split <;> decide

/-- An error is reported as one of structure, unless it is for want of an operator or for length. -/
theorem EvaluationError.isStructural_iff (error : EvaluationError) :
    error.IsStructural ↔ error ≠ .uncheckedOperator ∧ ¬error.IsOfLength := by
  -- The errors without a report are those two.
  cases error with
  | malformed fault => simp [EvaluationError.isStructural_malformed, IsOfLength]
  | uncheckedOperator =>
    refine iff_of_false ?_ (by simp)
    rintro ⟨report, reported, _⟩
    cases reported
  | numeral reason =>
    refine iff_of_false ?_ (by simp [IsOfLength])
    rintro ⟨report, reported, _⟩
    cases reported

/-- The two operands of a comparison, whether its operator was resolved or not. -/
def Condition.compared? : Condition → Option (Value × Value)
  | .comparison _ left right => some (left, right)
  | .unchecked _ left right => some (left, right)
  | _ => none

/-- The parts of a node that are evaluated, each after those before it have come out as they did. -/
inductive Evaluates (limit : Int) (document : Value) (depth : Int) : Value → Value → Prop
  | left {built : Condition} {left right : Value} : built.compared? = some (left, right) →
    Evaluates limit document depth (.condition built) left
  | right {built : Condition} {left right value : Value} : built.compared? = some (left, right) →
    evaluateAt limit document (depth + 1) left = .ok value →
    Evaluates limit document depth (.condition built) right
  | member {connective : Connective} {earlier later : List Value} {operand : Value} :
    (∀ other ∈ earlier, ∃ value, evaluateAt limit document (depth + 1) other = .ok value ∧
      value.isTruthy ≠ connective.settling) →
    Evaluates limit document depth (.condition (.junction connective (earlier ++ operand :: later)))
      operand
  | test {test accepted rejected : Value} :
    Evaluates limit document depth (.condition (.branch test accepted rejected)) test
  | accepted {test accepted rejected value : Value} :
    evaluateAt limit document (depth + 1) test = .ok value → value.isTruthy = true →
    Evaluates limit document depth (.condition (.branch test accepted rejected)) accepted
  | rejected {test accepted rejected value : Value} :
    evaluateAt limit document (depth + 1) test = .ok value → value.isTruthy = false →
    Evaluates limit document depth (.condition (.branch test accepted rejected)) rejected

section Parts

variable {limit depth : Int} {document tree part : Value} {error : EvaluationError}

/-- A group fails with the member that fails, if no member before it has settled the group. -/
theorem evaluateJunction_error_of_member {connective : Connective} {earlier later : List Value}
    (open_ : ∀ other ∈ earlier, ∃ value, evaluateAt limit document depth other = .ok value ∧
      value.isTruthy ≠ connective.settling)
    (failed : evaluateAt limit document depth part = .error error) :
    evaluateJunction limit document depth connective (earlier ++ part :: later) = .error error := by
  -- The members before it are evaluated and passed by one after the other.
  induction earlier with
  | nil => exact bind_eq_error.mpr (.inl failed)
  | cons first rest ih =>
    obtain ⟨value, evaluated, unsettled⟩ := open_ first (List.mem_cons_self ..)
    refine bind_eq_error.mpr (.inr ⟨value, evaluated, ?_⟩)
    have passed : (value.isTruthy == connective.settling) = false := by simpa using unsettled
    rw [passed]
    exact ih fun other member => open_ other (List.mem_cons_of_mem first member)

/-- A group that fails does so at some member, up to which nothing has settled it. -/
theorem member_of_evaluateJunction_error {connective : Connective} {operands : List Value}
    (failed : evaluateJunction limit document depth connective operands = .error error) :
    ∃ earlier operand later, operands = earlier ++ operand :: later ∧
      (∀ other ∈ earlier, ∃ value, evaluateAt limit document depth other = .ok value ∧
        value.isTruthy ≠ connective.settling) ∧
      evaluateAt limit document depth operand = .error error := by
  -- Either the first member fails, or it is passed by and a later one does.
  induction operands with
  | nil => cases failed
  | cons first rest ih =>
    rcases bind_eq_error.mp failed with here | ⟨value, evaluated, failed⟩
    · exact ⟨[], first, rest, rfl, by simp, here⟩
    · -- The first member has a value that leaves the group open.
      split at failed
      · cases failed
      · rename_i unsettled
        obtain ⟨earlier, operand, later, rfl, open_, found⟩ := ih failed
        refine ⟨first :: earlier, operand, later, rfl, ?_, found⟩
        exact List.forall_mem_cons.mpr ⟨⟨value, evaluated, by simpa using unsettled⟩, open_⟩

/-- The failure of a part that is evaluated is the failure of the whole. -/
theorem evaluateAt_error_of_part (shallow : ¬limit < depth)
    (evaluated : Evaluates limit document depth tree part)
    (failed : evaluateAt limit document (depth + 1) part = .error error) :
    evaluateAt limit document depth tree = .error error := by
  rw [evaluateAt.eq_def, if_neg shallow]
  -- The node is run up to the part, and the failure goes through what would come after it.
  cases evaluated with
  | @left built _ _ compared =>
    -- Both kinds of comparison evaluate their operands before they look at their operator.
    cases built with
    | comparison | unchecked =>
      cases compared
      exact bind_eq_error.mpr (.inl failed)
    | _ => cases compared
  | @right built _ _ value compared first =>
    cases built with
    | comparison | unchecked =>
      cases compared
      exact bind_eq_error.mpr (.inr ⟨value, first, bind_eq_error.mpr (.inl failed)⟩)
    | _ => cases compared
  | @member _ earlier later _ open_ =>
    have filled : (earlier ++ part :: later).isEmpty = false := by simp
    simp only [filled, Bool.false_eq_true, if_false]
    exact evaluateJunction_error_of_member open_ failed
  | test => exact bind_eq_error.mpr (.inl failed)
  | accepted tested truth =>
    exact bind_eq_error.mpr (.inr ⟨_, tested, by rw [if_pos truth]; exact failed⟩)
  | rejected tested truth =>
    exact bind_eq_error.mpr (.inr ⟨_, tested, by simpa [truth] using failed⟩)

/-- A part that is evaluated is smaller than the whole, so induction can descend. -/
theorem Evaluates.sizeOf_lt (evaluated : Evaluates limit document depth tree part) :
    sizeOf part < sizeOf tree := by
  -- Each part stands directly below the node.
  cases evaluated with
  | @left built _ _ compared | @right built _ _ _ compared =>
    cases built with
    | comparison | unchecked =>
      cases compared
      simp only [Value.condition.sizeOf_spec, Condition.comparison.sizeOf_spec,
        Condition.unchecked.sizeOf_spec]
      omega
    | _ => cases compared
  | @member _ earlier later _ _ =>
    have member : part ∈ earlier ++ part :: later := by simp
    have smaller := List.sizeOf_lt_of_mem member
    simp only [Value.condition.sizeOf_spec, Condition.junction.sizeOf_spec]
    omega
  | test | accepted | rejected =>
    simp only [Value.condition.sizeOf_spec, Condition.branch.sizeOf_spec]
    omega

/-- The parts of a resolved node that are evaluated are resolved. -/
theorem Evaluates.isResolved (evaluated : Evaluates limit document depth tree part)
    (resolved : tree.isResolved = true) : part.isResolved = true := by
  -- A node that is resolved names its operator, and its parts are resolved.
  cases evaluated with
  | @left built _ _ compared | @right built _ _ _ compared =>
    cases built with
    | comparison =>
      cases compared
      simp_all [Value.isResolved, Condition.isResolved]
    | unchecked => cases resolved
    | _ => cases compared
  | member =>
    have each : areResolved _ = true := resolved
    rw [areResolved_eq_all, List.all_eq_true] at each
    exact each part (by simp)
  | test | accepted | rejected => simp_all [Value.isResolved, Condition.isResolved]

/--
An unresolved operator that stops an evaluation is that of the node itself, or is met in a part.

If it is that of the node, both operands have values, for they are evaluated before it is looked at.
-/
theorem evaluateAt_unchecked_cases
    (failed : evaluateAt limit document depth tree = .error .uncheckedOperator) :
    (∃ operator left right first second, depth ≤ limit ∧
        tree = .condition (.unchecked operator left right) ∧
        evaluateAt limit document (depth + 1) left = .ok first ∧
        evaluateAt limit document (depth + 1) right = .ok second) ∨
      ∃ part, Evaluates limit document depth tree part ∧
        evaluateAt limit document (depth + 1) part = .error .uncheckedOperator := by
  by_cases deep : limit < depth
  · rw [evaluateAt.eq_def, if_pos deep] at failed
    cases failed
  rw [evaluateAt.eq_def, if_neg deep] at failed
  split at failed
  -- Literals and references apply nothing, whatever they hold.
  · cases failed
  · rename_i path
    unfold referenceValue at failed
    split at failed <;> cases failed
  · cases failed
  · -- A comparison that is resolved has the error of an operand.
    rename_i comparator left right
    rcases bind_eq_error.mp failed with here | ⟨value, first, failed⟩
    · exact .inr ⟨left, .left rfl, here⟩
    rcases bind_eq_error.mp failed with here | ⟨_, _, failed⟩
    · exact .inr ⟨right, .right rfl first, here⟩
    · cases failed
  · rename_i operator left right
    rcases bind_eq_error.mp failed with here | ⟨value, first, failed⟩
    · exact .inr ⟨left, .left rfl, here⟩
    rcases bind_eq_error.mp failed with here | ⟨other, second, _⟩
    · exact .inr ⟨right, .right rfl first, here⟩
    · -- Both operands have values, so it is this operator that could not be applied.
      exact .inl ⟨operator, left, right, value, other, by omega, rfl, first, second⟩
  · -- A group is empty, or fails at one of its members.
    rename_i connective operands
    split at failed
    · cases failed
    · obtain ⟨earlier, operand, later, rfl, open_, here⟩ := member_of_evaluateJunction_error failed
      exact .inr ⟨operand, .member open_, here⟩
  · rename_i test accepted rejected
    rcases bind_eq_error.mp failed with here | ⟨value, tested, failed⟩
    · exact .inr ⟨test, .test, here⟩
    -- Only the outcome that the test has chosen can have failed.
    split at failed
    · rename_i truth
      exact .inr ⟨accepted, .accepted tested truth, failed⟩
    · rename_i falsity
      exact .inr ⟨rejected, .rejected tested (Bool.not_eq_true _ ▸ falsity), failed⟩
  · cases failed

end Parts

/-- Evaluation comes to a comparison whose operator was never resolved, and whose operands have
values that the operator would have to be applied to. -/
inductive AppliesUnchecked (limit : Int) (document : Value) : Int → Value → Prop
  | here {depth : Int} {left right first second : Value} (operator : Value) : depth ≤ limit →
    evaluateAt limit document (depth + 1) left = .ok first →
    evaluateAt limit document (depth + 1) right = .ok second →
    AppliesUnchecked limit document depth (.condition (.unchecked operator left right))
  | part {depth : Int} {tree part : Value} : Evaluates limit document depth tree part →
    AppliesUnchecked limit document (depth + 1) part → AppliesUnchecked limit document depth tree

section Applying

variable {limit depth : Int} {document tree : Value}

/-- Nothing is applied below the limit. -/
theorem AppliesUnchecked.within (applies : AppliesUnchecked limit document depth tree) :
    depth ≤ limit := by
  induction applies with
  | here operator within => exact within
  | part _ _ ih => omega

/-- A resolved tree has no operator to apply that was never resolved. -/
theorem AppliesUnchecked.not_isResolved (applies : AppliesUnchecked limit document depth tree) :
    ¬tree.isResolved = true := by
  -- What is resolved is so in each part that is evaluated.
  induction applies with
  | here operator => simp [Value.isResolved, Condition.isResolved]
  | part evaluated _ ih =>
    intro resolved
    exact ih (evaluated.isResolved resolved)

/-- Evaluation stops without a report exactly if it comes to apply an unresolved operator. -/
theorem evaluateAt_eq_unchecked_iff :
    evaluateAt limit document depth tree = .error .uncheckedOperator ↔
      AppliesUnchecked limit document depth tree := by
  constructor
  · -- The failure is followed down into the part that it comes from.
    intro failed
    induction size : sizeOf tree using Nat.strongRecOn generalizing tree depth with
    | ind _ ih =>
      rcases evaluateAt_unchecked_cases failed with
        ⟨operator, left, right, first, second, within, rfl, here, there⟩ | ⟨part, evaluated, below⟩
      · exact .here operator within here there
      · have smaller := evaluated.sizeOf_lt
        exact .part evaluated (ih (sizeOf part) (by omega) below rfl)
  · -- The failure is handed up from part to whole.
    intro applies
    induction applies with
    | @here depth left right first second operator within here there =>
      have shallow : ¬limit < depth := by omega
      simp only [evaluateAt, if_neg shallow, here, there]
      rfl
    | part evaluated below ih =>
      have within := below.within
      exact evaluateAt_error_of_part (by omega) evaluated ih

end Applying

/-- An evaluation has a value, or fails in a way that is reported as an invalid condition. -/
def IsAnswered (outcome : Except EvaluationError Value) : Prop :=
  (∃ value, outcome = .ok value) ∨ ∃ error, outcome = .error error ∧ error.IsStructural

/-- Only want of an operator or of length leaves an evaluation without an answer. -/
theorem isAnswered_iff (outcome : Except EvaluationError Value) :
    IsAnswered outcome ↔ outcome ≠ .error .uncheckedOperator ∧
      ∀ error, outcome = .error error → ¬error.IsOfLength := by
  cases outcome with
  | ok value => simp [IsAnswered]
  | error error => simp [IsAnswered, EvaluationError.isStructural_iff]

/-- A rule fails for want of an operator exactly if it is read, and then comes to apply one. -/
theorem evaluate_eq_unchecked_iff {limit : Int} {tree document : Value} :
    evaluate limit tree document = .error .uncheckedOperator ↔
      ∃ built, tree.toCondition limit = .ok built ∧
        AppliesUnchecked limit document 1 (.condition built) := by
  unfold evaluate
  cases read : tree.toCondition limit with
  | error fault => simp
  | ok built => simp [evaluateAt_eq_unchecked_iff]

/--
A tree has a value or a fault of structure, unless it comes to apply an unresolved operator.

This holds of trees of every shape, however they were built, on every document and under every
limit, as long as no number is too long to be read or to be told. Where a tree holds no operator
that was never resolved, only the length of a number can leave it without an answer.
-/
theorem evaluate_isAnswered_iff (limit : Int) (tree document : Value) :
    (IsAnswered (evaluate limit tree document) ↔
      (¬∃ built, tree.toCondition limit = .ok built ∧
        AppliesUnchecked limit document 1 (.condition built)) ∧
      ∀ error, evaluate limit tree document = .error error → ¬error.IsOfLength) ∧
      (tree.isResolved = true → IsAnswered (evaluate limit tree document) ∨
        ∃ error, evaluate limit tree document = .error error ∧ error.IsOfLength) := by
  have answered : IsAnswered (evaluate limit tree document) ↔
      (¬∃ built, tree.toCondition limit = .ok built ∧
        AppliesUnchecked limit document 1 (.condition built)) ∧
      ∀ error, evaluate limit tree document = .error error → ¬error.IsOfLength := by
    rw [isAnswered_iff, Ne, evaluate_eq_unchecked_iff]
  refine ⟨answered, ?_⟩
  -- Reading a tree adds no operator that it did not hold, and neither does evaluating it.
  intro resolved
  rw [answered]
  have applied : ¬∃ built, tree.toCondition limit = .ok built ∧
      AppliesUnchecked limit document 1 (.condition built) := by
    rintro ⟨built, read, applies⟩
    exact applies.not_isResolved (isResolved_of_toCondition read resolved)
  -- Nothing else is left that could keep a resolved tree from an answer.
  by_cases long : ∃ error, evaluate limit tree document = .error error ∧ error.IsOfLength
  · exact .inr long
  · exact .inl ⟨applied, fun error failed known => long ⟨error, failed, known⟩⟩

/-- A comparison of two numbers by a word that is no operator fails without a report. -/
theorem evaluate_unanswered :
    let one : Value := .condition (.literal (.int 1))
    let two : Value := .condition (.literal (.int 2))
    let tree : Value := .condition (.unchecked (.text "between") one two)
    evaluate 32 tree (.object []) = .error .uncheckedOperator ∧
      ¬IsAnswered (evaluate 32 tree (.object [])) := by
  intro one two tree
  -- Both operands have values, so the operator is come to.
  have failed : evaluate 32 tree (.object []) = .error .uncheckedOperator := rfl
  refine ⟨failed, ?_⟩
  rw [isAnswered_iff]
  exact fun answered => answered.1 failed

end DeliveryRules
