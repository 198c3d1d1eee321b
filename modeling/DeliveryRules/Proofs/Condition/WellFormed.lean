import DeliveryRules.Proofs.Condition.Operator

/-! Conditions that are well formed all the way down, how deep they are, and induction over them. -/

namespace DeliveryRules

mutual

/-- Literals are scalars, paths are texts, comparisons are resolved and groups have members. -/
def Condition.isWellFormed : Condition → Bool
  | .literal content => content.isScalar
  | .field (.text _) => true
  | .field _ => false
  | .comparison _ left right => left.isWellFormedNode && right.isWellFormedNode
  | .unchecked _ _ _ => false
  | .junction _ operands => !operands.isEmpty && areWellFormedNodes operands
  | .branch test accepted rejected =>
    test.isWellFormedNode && accepted.isWellFormedNode && rejected.isWellFormedNode
termination_by structural condition => condition

/-- Whether a value is a built condition that is well formed. -/
def Value.isWellFormedNode : Value → Bool
  | .condition built => built.isWellFormed
  | _ => false
termination_by structural value => value

/-- Whether every operand is a well-formed condition. -/
def areWellFormedNodes : List Value → Bool
  | [] => true
  | operand :: rest => operand.isWellFormedNode && areWellFormedNodes rest
termination_by structural operands => operands

end

mutual

/-- The number of nodes on the longest way down a condition. -/
def Condition.depth : Condition → Nat
  | .literal _ => 1
  | .field _ => 1
  | .comparison _ left right => 1 + max left.nodeDepth right.nodeDepth
  | .unchecked _ left right => 1 + max left.nodeDepth right.nodeDepth
  | .junction _ operands => 1 + deepest operands
  | .branch test accepted rejected =>
    1 + max test.nodeDepth (max accepted.nodeDepth rejected.nodeDepth)
termination_by structural condition => condition

/-- The depth of a built condition; other values have no nodes. -/
def Value.nodeDepth : Value → Nat
  | .condition built => built.depth
  | _ => 0
termination_by structural value => value

/-- The depth of the deepest of some operands. -/
def deepest : List Value → Nat
  | [] => 0
  | operand :: rest => max operand.nodeDepth (deepest rest)
termination_by structural operands => operands

end

/-- A well-formed node is a condition that is well formed. -/
theorem Value.isWellFormedNode_iff {value : Value} :
    value.isWellFormedNode = true ↔
      ∃ part : Condition, value = .condition part ∧ part.isWellFormed = true := by
  cases value <;> simp [isWellFormedNode]

/-- Well-formed operands are lists of well-formed conditions. -/
theorem areWellFormedNodes_iff {operands : List Value} :
    areWellFormedNodes operands = true ↔
      ∃ parts : List Condition, operands = parts.map .condition ∧
        ∀ part ∈ parts, part.isWellFormed = true := by
  -- The parts are read off one by one, since a well-formed operand is a built condition.
  induction operands with
  | nil => simp [areWellFormedNodes]
  | cons operand rest ih =>
    simp only [areWellFormedNodes, Bool.and_eq_true, Value.isWellFormedNode_iff, ih]
    constructor
    · rintro ⟨⟨head, rfl, headFormed⟩, parts, rfl, tailFormed⟩
      exact ⟨head :: parts, rfl, by simpa using ⟨headFormed, tailFormed⟩⟩
    · rintro ⟨parts, listed, formed⟩
      obtain ⟨head, tail, rfl, rfl, rfl⟩ := List.map_eq_cons_iff.mp listed.symm
      exact ⟨⟨head, rfl, formed head (by simp)⟩, tail, rfl,
        fun part member => formed part (by simp [member])⟩

namespace Operator

/-- A condition is well formed if its operands are. -/
theorem isWellFormed_assemble {operator : Operator} {operands : List Value}
    (admitted : operator.admits operands.length = true) :
    (operator.assemble operands).isWellFormed = areWellFormedNodes operands := by
  -- The arrangement tells the operands by name, and the checks of a node are those of its operands.
  cases arranged admitted <;>
    simp [assemble, Condition.isWellFormed, areWellFormedNodes, Bool.and_assoc]

/-- A condition lies one level above its deepest operand. -/
theorem depth_assemble {operator : Operator} {operands : List Value}
    (admitted : operator.admits operands.length = true) :
    (operator.assemble operands).depth = 1 + deepest operands := by
  -- The depth of a node is one more than the largest depth of its operands.
  cases arranged admitted <;> simp [assemble, Condition.depth, deepest]

/-- The operands of a condition are smaller than the condition, so induction can descend. -/
theorem sizeOf_lt_assemble {operator : Operator} {operands : List Value} {operand : Value}
    (admitted : operator.admits operands.length = true) (member : operand ∈ operands) :
    sizeOf operand < sizeOf (operator.assemble operands) := by
  -- The operands stand in fields of their own or in a list, by the kind of the node.
  cases arranged admitted with
  | compare comparator left right =>
    simp only [List.mem_cons, List.not_mem_nil, or_false] at member
    simp only [assemble, List.getD_cons_zero, List.getD_cons_succ,
      Condition.comparison.sizeOf_spec]
    rcases member with rfl | rfl <;> omega
  | join connective first rest =>
    have smaller := List.sizeOf_lt_of_mem member
    simp only [assemble, Condition.junction.sizeOf_spec]
    omega
  | branch test accepted rejected =>
    simp only [List.mem_cons, List.not_mem_nil, or_false] at member
    simp only [assemble, List.getD_cons_zero, List.getD_cons_succ, Condition.branch.sizeOf_spec]
    rcases member with rfl | rfl | rfl <;> omega

end Operator

/-- Every part is at most as deep as the deepest. -/
theorem depth_le_deepest {parts : List Condition} {part : Condition} (member : part ∈ parts) :
    part.depth ≤ deepest (parts.map .condition) := by
  -- The part is the first one, or one of those after it.
  induction parts with
  | nil => simp at member
  | cons first rest ih =>
    simp only [List.map_cons, deepest, Value.nodeDepth]
    rcases List.mem_cons.mp member with rfl | later
    · exact Nat.le_max_left ..
    · exact Nat.le_trans (ih later) (Nat.le_max_right ..)

/-- Parts stay within a depth that none of them exceeds. -/
theorem deepest_le {parts : List Condition} {bound : Nat}
    (bounded : ∀ part ∈ parts, part.depth ≤ bound) : deepest (parts.map .condition) ≤ bound := by
  -- The bound holds of the first part and, by induction, of all others together.
  induction parts with
  | nil => simp [deepest]
  | cons first rest ih =>
    simp only [List.map_cons, deepest, Value.nodeDepth]
    have tail := ih fun part later => bounded part (by simp [later])
    exact Nat.max_le.mpr ⟨bounded first (by simp), tail⟩

namespace Condition

/-- Well-formed operands in an admitted number make a node over well-formed parts. -/
theorem exists_parts (operator : Operator) (operands : List Value)
    (admitted : operator.admits operands.length = true)
    (wellFormed : (operator.assemble operands).isWellFormed = true) :
    ∃ parts : List Condition, operator.admits parts.length = true ∧
      (∀ part ∈ parts, part.isWellFormed = true) ∧
      operator.assemble operands = operator.assemble (parts.map .condition) := by
  -- Well-formed operands are built conditions, so the parts can be read off them.
  rw [Operator.isWellFormed_assemble admitted] at wellFormed
  obtain ⟨parts, rfl, formed⟩ := areWellFormedNodes_iff.mp wellFormed
  exact ⟨parts, by simpa using admitted, formed, rfl⟩

/-- A well-formed condition is a literal, a reference, or an operator over well-formed parts. -/
theorem wellFormed_cases {built : Condition} (wellFormed : built.isWellFormed = true) :
    (∃ content, content.isScalar = true ∧ built = .literal content) ∨
      (∃ path, built = .field (.text path)) ∨
      ∃ (operator : Operator) (parts : List Condition), operator.admits parts.length = true ∧
        (∀ part ∈ parts, part.isWellFormed = true) ∧
        built = operator.assemble (parts.map .condition) := by
  -- Operators that were never resolved and paths that are no texts are ruled out.
  cases built with
  | literal content => exact .inl ⟨content, wellFormed, rfl⟩
  | field path =>
    cases path with
    | text path => exact .inr (.inl ⟨path, rfl⟩)
    | _ => simp [isWellFormed] at wellFormed
  | comparison comparator left right =>
    exact .inr (.inr ⟨_, exists_parts (.compare comparator) [left, right] rfl wellFormed⟩)
  | unchecked operator left right => simp [isWellFormed] at wellFormed
  | junction connective operands =>
    have admitted : (Operator.join connective).admits operands.length = true := by
      cases operands <;> simp_all [isWellFormed, Operator.admits]
    exact .inr (.inr ⟨_, exists_parts (.join connective) operands admitted wellFormed⟩)
  | branch test accepted rejected =>
    exact .inr (.inr ⟨_, exists_parts .branch [test, accepted, rejected] rfl wellFormed⟩)

/-- An operator over well-formed parts in an admitted number is well formed. -/
theorem isWellFormed_node {operator : Operator} {parts : List Condition}
    (admitted : operator.admits parts.length = true)
    (formed : ∀ part ∈ parts, part.isWellFormed = true) :
    (operator.assemble (parts.map .condition)).isWellFormed = true := by
  rw [Operator.isWellFormed_assemble (by simpa using admitted)]
  exact areWellFormedNodes_iff.mpr ⟨parts, rfl, formed⟩

/-- Induction over well-formed conditions: literals, references, and operators over parts. -/
@[elab_as_elim]
theorem wellFormed_induction {motive : (built : Condition) → built.isWellFormed = true → Prop}
    (literal : ∀ content (scalar : content.isScalar = true), motive (.literal content) scalar)
    (field : ∀ path, motive (.field (.text path)) rfl)
    (node : ∀ (operator : Operator) (parts : List Condition)
      (admitted : operator.admits parts.length = true)
      (formed : ∀ part ∈ parts, part.isWellFormed = true),
      (∀ part (member : part ∈ parts), motive part (formed part member)) →
      motive (operator.assemble (parts.map .condition)) (isWellFormed_node admitted formed))
    (built : Condition) (wellFormed : built.isWellFormed = true) : motive built wellFormed := by
  -- The parts stand in lists of values, so the descent is by size and not by constructors.
  induction size : sizeOf built using Nat.strongRecOn generalizing built with
  | ind _ ih =>
    rcases wellFormed_cases wellFormed with
      ⟨content, scalar, rfl⟩ | ⟨path, rfl⟩ | ⟨operator, parts, admitted, formed, rfl⟩
    · exact literal content scalar
    · exact field path
    · refine node operator parts admitted formed fun part member => ?_
      have listed : Value.condition part ∈ parts.map Value.condition := List.mem_map_of_mem member
      have smaller := Operator.sizeOf_lt_assemble (by simpa using admitted) listed
      simp only [Value.condition.sizeOf_spec] at smaller
      exact ih (sizeOf part) (by omega) part (formed part member) rfl

end Condition

end DeliveryRules
