import DeliveryRules.Service.Framework
import Mathlib.Data.String.Basic

/-! What is documented of web frameworks, and that the one which is described here keeps to it. -/

namespace DeliveryRules.Service

/-- Whether members of a body hold what an operation expects: a rule, and perhaps a word for a
category and an object with data. -/
structure Carries (action : RuleAction) (members : Members) (word : String)
    (condition data : Value) : Prop where
  condition : members.lookup "condition" = some condition
  category : action.expectation.category = true → members.lookup "category" = some (.text word)
  data : action.expectation.data = true →
    members.lookup "data" = some data ∧ RuleBody.isObject data = true

/-- Whether a body was taken apart into what an operation expects of it. -/
structure RuleBody.Gives (body : RuleBody) (action : RuleAction) (word : String)
    (condition data : Value) : Prop where
  condition : body.condition = condition
  category : action.expectation.category = true → body.category = .text word
  data : action.expectation.data = true → body.data = data

/-- A body that carries what an operation expects is taken as it is. -/
theorem Carries.ofBody {action : RuleAction} {members : Members} {word : String}
    {condition data : Value} (carries : Carries action members word condition data) :
    ∃ body : RuleBody,
      RuleBody.ofBody action.expectation (.document (.object members)) = .ok body ∧
        body.Gives action word condition data := by
  -- No member that is expected is missing or of the wrong kind.
  have faultless : RuleBody.issues action.expectation members = [] := by
    simp only [RuleBody.issues, RuleBody.memberIssues, carries.condition, List.append_nil,
      if_true, List.append_eq_nil_iff]
    constructor
    · split
      · next expected => simp [carries.category expected, RuleBody.isText]
      · rfl
    · split
      · next expected => simp [carries.data expected]
      · rfl
  refine ⟨⟨RuleBody.memberOrNull members "category", RuleBody.memberOrNull members "condition",
    RuleBody.memberOrNull members "data"⟩, ?_, ?_, fun expected => ?_, fun expected => ?_⟩
  · rw [RuleBody.ofBody, faultless]
  · simp [RuleBody.memberOrNull, carries.condition]
  · simp [RuleBody.memberOrNull, carries.category expected]
  · simp [RuleBody.memberOrNull, carries.data expected]

end DeliveryRules.Service
