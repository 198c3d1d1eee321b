import DeliveryRules.Proofs.Condition.Parser
import DeliveryRules.Proofs.Value.Raw
import DeliveryRules.Value.Display

/-! Rules as operators over operands, in either form, and what passes from one to the other. -/

namespace DeliveryRules

namespace Value

/-- The operator that a value applies, and to what, as a document or as a node that is built. -/
def operation? : Value → Option (Operator × List Value)
  | .condition (.comparison comparator left right) => some (.compare comparator, [left, right])
  -- A group without members joins nothing.
  | .condition (.junction connective operands) =>
    if operands.isEmpty then none else some (.join connective, operands)
  | .condition (.branch test accepted rejected) => some (.branch, [test, accepted, rejected])
  | .condition _ => none
  | value => value.application?

/-- Data applies operators as documents do. -/
theorem operation?_of_data {value : Value} (data : ∀ built, value ≠ .condition built) :
    value.operation? = value.application? := by
  cases value with
  | condition built => exact absurd rfl (data built)
  | _ => rfl

/-- An application applies its operator. -/
theorem operation?_of_application {value : Value} {operator : Operator} {items : List Value}
    (applied : value.application? = some (operator, items)) :
    value.operation? = some (operator, items) := by
  obtain ⟨argument, rfl, _, _⟩ := application?_eq_some.mp applied
  exact applied

/-- An operator is applied by an application, or by a node that is assembled from operands. -/
theorem operation?_cases {value : Value} {operator : Operator} {items : List Value}
    (operated : value.operation? = some (operator, items)) :
    value.application? = some (operator, items) ∨
      operator.admits items.length = true ∧ value = .condition (operator.assemble items) := by
  -- A node applies its operator directly, and data does as a document.
  by_cases built : ∃ condition, value = .condition condition
  · obtain ⟨condition, rfl⟩ := built
    refine .inr ?_
    -- The nodes that apply an operator are those that it assembles from their operands.
    cases condition with
    | literal | field | unchecked => cases operated
    | comparison | branch =>
      cases operated
      exact ⟨rfl, rfl⟩
    | junction connective operands =>
      simp only [operation?] at operated
      split_ifs at operated with empty
      cases operated
      exact ⟨by simpa [Operator.admits] using empty, rfl⟩
  · exact .inl (operation?_of_data (not_exists.mp built) ▸ operated)

/-- The operands of an operator are smaller than what applies it, so induction can descend. -/
theorem sizeOf_operand_lt {value operand : Value} {operator : Operator} {items : List Value}
    (operated : value.operation? = some (operator, items)) (member : operand ∈ items) :
    sizeOf operand < sizeOf value := by
  rcases operation?_cases operated with applied | ⟨admitted, rfl⟩
  · exact sizeOf_argument_lt applied member
  · have smaller := Operator.sizeOf_lt_assemble admitted member
    simp only [condition.sizeOf_spec]
    omega

/-- Induction over rules in either form: values that apply no operator, and operators over items. -/
@[elab_as_elim]
theorem operation_induction {motive : Value → Prop}
    (leaf : ∀ value : Value, value.operation? = none → motive value)
    (node : ∀ (value : Value) (operator : Operator) (items : List Value),
      value.operation? = some (operator, items) → (∀ item ∈ items, motive item) → motive value)
    (value : Value) : motive value := by
  -- The descent is by size, since operands are found in two kinds of places.
  induction size : sizeOf value using Nat.strongRecOn generalizing value with
  | ind _ ih =>
    cases operated : value.operation? with
    | none => exact leaf value operated
    | some operation =>
      obtain ⟨operator, items⟩ := operation
      refine node value operator items operated fun item member => ?_
      exact ih (sizeOf item) (size ▸ sizeOf_operand_lt operated member) item rfl

/-- A property that a container has exactly if its parts do, and a node exactly if its operands. -/
structure IsHereditary (holds : Value → Bool) : Prop extends IsPartwise holds where
  node : ∀ {operator : Operator} {operands : List Value}, operator.admits operands.length = true →
    holds (.condition (operator.assemble operands)) = operands.all holds

/-- What applies an operator hands such a property down to its operands. -/
theorem IsHereditary.operand {holds : Value → Bool} (hereditary : IsHereditary holds)
    {value operand : Value} {operator : Operator} {items : List Value}
    (operated : value.operation? = some (operator, items)) (member : operand ∈ items)
    (whole : holds value = true) : holds operand = true := by
  refine List.all_eq_true.mp ?_ operand member
  -- The operands of a document are arguments, and those of a node are its own.
  rcases operation?_cases operated with applied | ⟨admitted, rfl⟩
  · -- The operands are all that an application holds.
    obtain ⟨argument, rfl, listed, _⟩ := application?_eq_some.mp applied
    rw [hereditary.object] at whole
    simpa [hereditary.sequence listed] using whole
  · rwa [hereditary.node admitted] at whole

end Value

/-- What a document describes has such a property if the document has it. -/
theorem Describes.hereditary {holds : Value → Bool} (hereditary : Value.IsHereditary holds)
    (literal : ∀ value : Value, value.isScalar = true →
      holds (.condition (.literal value)) = holds value)
    (field : ∀ path, holds (.condition (.field (.text path))) = true)
    {within : Int} {value : Value} {built : Condition} (described : Describes within value built)
    (whole : holds value = true) : holds (.condition built) = true := by
  -- The document is described from its arguments, and so is the property.
  induction described with
  | built condition positive => exact whole
  | literal positive scalar => exact (literal _ scalar).trans whole
  | field path positive => exact field path
  | @node within value operator pairs positive applied each ih =>
    have admitted : operator.admits ((pairs.map Prod.snd).map Value.condition).length = true := by
      simpa using Value.admits_of_application applied
    rw [hereditary.node admitted, List.all_eq_true]
    intro operand member
    obtain ⟨part, listed, rfl⟩ := List.mem_map.mp member
    obtain ⟨pair, paired, rfl⟩ := List.mem_map.mp listed
    -- Each operand was read from an argument, which has what the document has.
    have argument : pair.1 ∈ pairs.map Prod.fst := List.mem_map_of_mem paired
    have operated := Value.operation?_of_application applied
    exact ih pair paired (hereditary.operand operated argument whole)

/-- What a tree is read as has such a property if the tree has it. -/
theorem hereditary_of_toCondition {holds : Value → Bool} (hereditary : Value.IsHereditary holds)
    (literal : ∀ value : Value, value.isScalar = true →
      holds (.condition (.literal value)) = holds value)
    (field : ∀ path, holds (.condition (.field (.text path))) = true)
    {limit : Int} {tree : Value} {built : Condition} (read : tree.toCondition limit = .ok built)
    (whole : holds tree = true) : holds (.condition built) = true := by
  rcases describes_of_toCondition read with rfl | described
  · exact whole
  · exact described.hereditary hereditary literal field whole

section Resolved

mutual

/-- Whether every comparison in a value, however deep, is one that its operator was resolved to. -/
def Value.isResolved : Value → Bool
  | .condition built => built.isResolved
  | .list items => areResolved items
  | .tuple items => areResolved items
  | .object members => membersAreResolved members
  | _ => true
termination_by structural value => value

/-- Whether every comparison in a condition is resolved. -/
def Condition.isResolved : Condition → Bool
  | .literal content => content.isResolved
  | .field path => path.isResolved
  | .comparison _ left right => left.isResolved && right.isResolved
  | .unchecked _ _ _ => false
  | .junction _ operands => areResolved operands
  | .branch test accepted rejected =>
    test.isResolved && accepted.isResolved && rejected.isResolved
termination_by structural condition => condition

/-- Whether every comparison in some items is resolved. -/
def areResolved : List Value → Bool
  | [] => true
  | item :: rest => item.isResolved && areResolved rest
termination_by structural items => items

/-- Whether every comparison in some members is resolved. -/
def membersAreResolved : List (String × Value) → Bool
  | [] => true
  | (_, value) :: rest => value.isResolved && membersAreResolved rest
termination_by structural members => members

end

mutual

/-- Decoded data compares nothing, so it is resolved. -/
theorem Value.isResolved_of_raw (value : Value) (raw : value.isRaw = true) :
    value.isResolved = true := by
  -- Of all values only a built condition could compare.
  cases value with
  | list items => exact areResolved_of_raw items raw
  | tuple items => exact areResolved_of_raw items raw
  | object members => exact membersAreResolved_of_raw members raw
  | condition built => simp [Value.isRaw] at raw
  | _ => rfl
termination_by sizeOf value

/-- Decoded items are resolved. -/
theorem areResolved_of_raw (items : List Value) (raw : areRaw items = true) :
    areResolved items = true := by
  cases items with
  | nil => rfl
  | cons item rest =>
    simp only [areRaw, Bool.and_eq_true] at raw
    simp only [areResolved, Bool.and_eq_true]
    exact ⟨item.isResolved_of_raw raw.1, areResolved_of_raw rest raw.2⟩
termination_by sizeOf items

/-- Decoded members are resolved. -/
theorem membersAreResolved_of_raw (members : List (String × Value))
    (raw : membersAreRaw members = true) : membersAreResolved members = true := by
  match members, raw with
  | [], _ => rfl
  | (key, value) :: rest, raw =>
    simp only [membersAreRaw, Bool.and_eq_true] at raw
    simp only [membersAreResolved, Bool.and_eq_true]
    exact ⟨value.isResolved_of_raw raw.1, membersAreResolved_of_raw rest raw.2⟩
termination_by sizeOf members

end

/-- Items are resolved together exactly if each of them is. -/
theorem areResolved_eq_all (items : List Value) :
    areResolved items = items.all Value.isResolved := by
  induction items with
  | nil => rfl
  | cons item rest ih => rw [areResolved, ih, List.all_cons]

/-- Members are resolved together exactly if the value of each of them is. -/
theorem membersAreResolved_eq_all (members : Members) :
    membersAreResolved members = members.all fun member => member.2.isResolved := by
  induction members with
  | nil => rfl
  | cons member rest ih => rw [membersAreResolved, ih, List.all_cons]

/-- What is resolved is so in all of its parts, an operator being one itself. -/
theorem Value.isHereditary_isResolved : IsHereditary Value.isResolved where
  sequence listed := by
    rcases items?_eq_some.mp listed with rfl | rfl <;> exact areResolved_eq_all _
  object members := membersAreResolved_eq_all members
  node admitted := by
    cases Operator.arranged admitted with
    | join => exact areResolved_eq_all _
    | _ => simp [Operator.assemble, isResolved, Condition.isResolved, Bool.and_assoc]

/-- A well-formed condition is resolved. -/
theorem Condition.isResolved_of_wellFormed {built : Condition}
    (wellFormed : built.isWellFormed = true) : built.isResolved = true := by
  -- Operators of well-formed nodes are resolved, and operands well formed.
  induction built, wellFormed using Condition.wellFormed_induction with
  | literal content scalar =>
    cases content <;> simp_all [Value.isScalar, isResolved, Value.isResolved]
  | field path => rfl
  | node operator parts admitted formed ih =>
    show Value.isResolved (.condition _) = true
    rw [Value.isHereditary_isResolved.node (by simpa using admitted), List.all_eq_true]
    intro operand member
    obtain ⟨part, listed, rfl⟩ := List.mem_map.mp member
    exact ih part listed

/-- A tree that is resolved is read as a condition that is. -/
theorem isResolved_of_toCondition {limit : Int} {tree : Value} {built : Condition}
    (read : tree.toCondition limit = .ok built) (resolved : tree.isResolved = true) :
    (Value.condition built).isResolved = true :=
  hereditary_of_toCondition Value.isHereditary_isResolved (fun _ _ => rfl) (fun _ => rfl) read
    resolved

end Resolved

section Writable

/-- What is writable is so in all of its parts, an operator being one itself. -/
theorem Value.isHereditary_isWritable : IsHereditary Value.isWritable where
  toIsPartwise := isPartwise_isWritable
  node admitted := by
    cases Operator.arranged admitted with
    | join => exact areWritable_eq_all _
    | _ => simp [Operator.assemble, isWritable, Condition.isWritable, Bool.and_assoc]

/-- A tree whose numbers are short is read as a condition whose numbers are. -/
theorem isWritable_of_toCondition {limit : Int} {tree : Value} {built : Condition}
    (read : tree.toCondition limit = .ok built) (writable : tree.isWritable = true) :
    (Value.condition built).isWritable = true :=
  hereditary_of_toCondition Value.isHereditary_isWritable (fun _ _ => rfl) (fun _ => rfl) read
    writable

end Writable

end DeliveryRules
