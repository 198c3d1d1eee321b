import DeliveryRules.Condition.Operator
import DeliveryRules.Value.Basic
import Mathlib.Data.List.Basic

/-! Tags name operators without ambiguity, and operators put their operands together. -/

namespace DeliveryRules

namespace Comparator

/-- A comparison is found again under its own tag. -/
@[simp] theorem ofTag?_tag (comparator : Comparator) :
    ofTag? comparator.tag = some comparator := by
  -- The six tags differ, so the search stops at the comparison that was asked for.
  cases comparator <;> rfl

/-- The search by tag finds only comparisons of that tag. -/
theorem tag_of_ofTag? {tag : String} {comparator : Comparator}
    (found : ofTag? tag = some comparator) : comparator.tag = tag := by
  -- The search goes by the tag.
  have named := List.find?_some found
  simpa using named

end Comparator

namespace Operator

/-- An operator is found again under its own tag. -/
@[simp] theorem ofTag?_tag (operator : Operator) : ofTag? operator.tag = some operator := by
  -- A comparison is looked for first, and the tags of the others are none of its own.
  cases operator with
  | compare comparator => simp [ofTag?, tag]
  | join connective => cases connective <;> rfl
  | branch => rfl

/-- A tag names an operator exactly if it is the tag of that operator. -/
theorem ofTag?_eq_some {name : String} {operator : Operator} :
    ofTag? name = some operator ↔ operator.tag = name := by
  constructor
  · intro found
    unfold ofTag? at found
    -- Comparisons come first, and the remaining three tags are compared one by one.
    cases compared : Comparator.ofTag? name with
    | some comparator =>
      simp only [compared, Option.some.injEq] at found
      subst found
      exact Comparator.tag_of_ofTag? compared
    | none =>
      simp only [compared] at found
      split_ifs at found with all any chosen
      · cases found
        exact all.symm
      · cases found
        exact any.symm
      · cases found
        exact chosen.symm
  · rintro rfl
    exact ofTag?_tag operator

/-- The tag of a reference is not the tag of an operator. -/
@[simp] theorem tag_ne_fieldTag (operator : Operator) : operator.tag ≠ fieldTag := by
  -- All tags are known words, so they are compared one by one.
  cases operator with
  | compare comparator => cases comparator <;> decide
  | join connective => cases connective <;> decide
  | branch => decide

/-- Whether an operator takes so many arguments. -/
def admits : Operator → Nat → Bool
  | .compare _, count => count == 2
  | .join _, count => count != 0
  | .branch, count => count == 3

/-- The arguments of an operator in the number it takes. -/
inductive Arranged {α : Type} : Operator → List α → Prop
  | compare (comparator : Comparator) (left right : α) :
    Arranged (.compare comparator) [left, right]
  | join (connective : Connective) (first : α) (rest : List α) :
    Arranged (.join connective) (first :: rest)
  | branch (test accepted rejected : α) : Arranged .branch [test, accepted, rejected]

/-- An admitted number of arguments fixes how they are arranged. -/
theorem arranged {α : Type} {operator : Operator} {arguments : List α}
    (admitted : operator.admits arguments.length = true) : Arranged operator arguments := by
  -- A comparison takes two, a group at least one, and a branch three.
  cases operator with
  | compare comparator =>
    obtain ⟨left, right, rfl⟩ := List.length_eq_two.mp (by simpa [admits] using admitted)
    exact .compare comparator left right
  | join connective =>
    cases arguments with
    | nil => simp [admits] at admitted
    | cons first rest => exact .join connective first rest
  | branch =>
    obtain ⟨test, accepted, rejected, rfl⟩ :=
      List.length_eq_three.mp (by simpa [admits] using admitted)
    exact .branch test accepted rejected

/-- The condition of an operator over its operands, operands that are missing being null. -/
def assemble : Operator → List Value → Condition
  | .compare comparator, operands =>
    .comparison comparator (operands.getD 0 .null) (operands.getD 1 .null)
  | .join connective, operands => .junction connective operands
  | .branch, operands =>
    .branch (operands.getD 0 .null) (operands.getD 1 .null) (operands.getD 2 .null)

end Operator

end DeliveryRules
