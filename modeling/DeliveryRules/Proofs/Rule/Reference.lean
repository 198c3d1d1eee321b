import DeliveryRules.Proofs.Condition.Parser
import DeliveryRules.Rule.Validation

/-! The references of a document are those of the condition it describes, level by level. -/

namespace DeliveryRules

mutual

/-- The paths a condition refers to, from the top and from left to right, with repetitions. -/
def Condition.references : Condition → List String
  | .literal _ => []
  | .field (.text path) => [path]
  | .field _ => []
  | .comparison _ left right => left.references ++ right.references
  | .unchecked _ left right => left.references ++ right.references
  | .junction _ operands => operandReferences operands
  | .branch test accepted rejected =>
    test.references ++ accepted.references ++ rejected.references
termination_by structural condition => condition

/-- The paths a built operand refers to; other values have no references. -/
def Value.references : Value → List String
  | .condition built => built.references
  | _ => []
termination_by structural value => value

/-- The paths that consecutive operands refer to. -/
def operandReferences : List Value → List String
  | [] => []
  | operand :: rest => operand.references ++ operandReferences rest
termination_by structural operands => operands

end

/-- The references of some operands are those of each of them, in order. -/
theorem operandReferences_eq_flatMap (operands : List Value) :
    operandReferences operands = operands.flatMap Value.references := by
  induction operands with
  | nil => rfl
  | cons operand rest ih => rw [operandReferences, ih, List.flatMap_cons]

/-- An operator adds no references to those of its operands. -/
theorem Operator.references_assemble {operator : Operator} {operands : List Value}
    (admitted : operator.admits operands.length = true) :
    (operator.assemble operands).references = operands.flatMap Value.references := by
  cases arranged admitted with
  | compare comparator left right => simp [assemble, Condition.references]
  | join connective first rest =>
    simp only [assemble, Condition.references, operandReferences_eq_flatMap]
  | branch test accepted rejected => simp [assemble, Condition.references]

/-- The references below some items are those below each of them, in order. -/
theorem collectItems_eq_flatMap (levels : Int) (items : List Value) :
    collectItems levels items = items.flatMap (collectFields levels) := by
  induction items with
  | nil => rfl
  | cons item rest ih => rw [collectItems, ih, List.flatMap_cons]

/-- Without levels left nothing is visited. -/
theorem collectFields_of_spent {levels : Int} (spent : levels < 1) (tree : Value) :
    collectFields levels tree = [] := by
  unfold collectFields
  rw [if_pos spent]

/-- Without levels left no item is visited. -/
theorem collectItems_of_spent {levels : Int} (spent : levels < 1) (items : List Value) :
    collectItems levels items = [] := by
  rw [collectItems_eq_flatMap, List.flatMap_eq_nil_iff]
  exact fun item _ => collectFields_of_spent spent item

/-- A scalar refers to nothing. -/
theorem collectFields_scalar {value : Value} (levels : Int) (scalar : value.isScalar = true) :
    collectFields levels value = [] := by
  cases value <;> simp_all [Value.isScalar, collectFields]

/-- An application takes two levels, one for its object and one for its arguments. -/
theorem collectFields_application {value : Value} {operator : Operator} {items : List Value}
    (levels : Int) (applied : value.application? = some (operator, items)) :
    collectFields levels value = collectItems (levels - 2) items := by
  -- The arguments lie below the object and below their list.
  obtain ⟨argument, rfl, listed, _⟩ := Value.application?_eq_some.mp applied
  by_cases spent : levels - 1 < 1
  · -- Whether the object is visited or not, its arguments are too deep.
    rw [collectItems_of_spent (by omega)]
    unfold collectFields
    split
    · rfl
    · rcases Value.items?_eq_some.mp listed with rfl | rfl <;>
        simp [collectMembers, collectFields_of_spent spent]
  · have visited : ¬levels < 1 := by omega
    have deeper : levels - 1 - 1 = levels - 2 := by omega
    rcases Value.items?_eq_some.mp listed with rfl | rfl <;>
      simp [collectFields, collectMembers, visited, spent, deeper]

/-- A built node takes two levels as well. -/
theorem collectFields_assemble {operator : Operator} {operands : List Value} (levels : Int)
    (admitted : operator.admits operands.length = true) :
    collectFields levels (.condition (operator.assemble operands)) =
      collectItems (levels - 2) operands := by
  by_cases spent : levels < 1
  · rw [collectFields_of_spent spent, collectItems_of_spent (by omega)]
  · -- The operands are visited in the order in which the node holds them.
    cases Operator.arranged admitted <;>
      simp [Operator.assemble, collectFields, collectItems, spent]

/-- A document and the condition it describes have the same references, within any levels. -/
theorem Describes.collectFields_eq {within : Int} {value : Value} {built : Condition}
    (described : Describes within value built) (levels : Int) :
    collectFields levels value = collectFields levels (.condition built) := by
  -- Both forms of a node take two levels, so the levels left stay the same all the way down.
  induction described generalizing levels with
  | built condition positive => rfl
  | literal positive scalar =>
    rw [collectFields_scalar levels scalar]
    simp [collectFields]
  | field path positive => simp [collectFields, collectMembers]
  | @node within value operator pairs positive applied each ih =>
    have admitted := Value.admits_of_application applied
    rw [collectFields_application levels applied,
      collectFields_assemble levels (by simpa using admitted)]
    simp only [collectItems_eq_flatMap, List.flatMap_map]
    exact List.flatMap_congr fun pair member => ih pair member (levels - 2)

/-- A tree refers to what it is read as refers to, under every limit. -/
theorem referencedFields_of_toCondition {within : Int} {tree : Value} {built : Condition}
    (read : tree.toCondition within = .ok built) (limit : Int) :
    referencedFields limit tree = referencedFields limit (.condition built) := by
  rcases describes_of_toCondition read with rfl | described
  · rfl
  · exact described.collectFields_eq (2 * limit)

/-- A rule is valid exactly if the category has every field that the rule refers to. -/
theorem isValid_iff {limit : Int} {catalog : Catalog} {category : Category} {tree : Value} :
    (validate limit catalog category tree).isValid = true ↔
      ∀ path ∈ referencedFields limit tree, normalizePath path ∈ catalog.pathsFor category := by
  simp [validate, Verdict.isValid, isAllowed, List.filter_eq_nil_iff]

end DeliveryRules
