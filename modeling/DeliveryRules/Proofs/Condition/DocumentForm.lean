import DeliveryRules.Proofs.Condition.Wire
import DeliveryRules.Proofs.Value.Container

/-! The document that a value stands for, with its conditions written out wherever they stand. -/

namespace DeliveryRules

mutual

/-- The document a value stands for: its conditions are written out and its tuples are lists. -/
def Value.documentForm : Value → Value
  | .condition built => built.documentForm
  | .list items => .list (documentForms items)
  | .tuple items => .list (documentForms items)
  | .object members => .object (memberDocumentForms members)
  | value => value
termination_by structural value => value

/-- The document a condition is written as, with documents for its parts. -/
def Condition.documentForm : Condition → Value
  | .literal content => content
  | .field path => .object [(fieldTag, path)]
  | .comparison comparator left right =>
    .object [(comparator.tag, .list [left.documentForm, right.documentForm])]
  -- An operator that was never resolved has no tag to be written with.
  | .unchecked operator left right => .condition (.unchecked operator left right)
  | .junction connective operands => .object [(connective.tag, .list (documentForms operands))]
  | .branch test accepted rejected =>
    .object [(branchTag, .list [test.documentForm, accepted.documentForm, rejected.documentForm])]
termination_by structural condition => condition

/-- The documents that items stand for. -/
def documentForms : List Value → List Value
  | [] => []
  | item :: rest => item.documentForm :: documentForms rest
termination_by structural items => items

/-- Members that hold the documents their values stand for. -/
def memberDocumentForms : List (String × Value) → List (String × Value)
  | [] => []
  | (key, value) :: rest => (key, value.documentForm) :: memberDocumentForms rest
termination_by structural members => members

end

/-- Every item is written on its own. -/
theorem documentForms_eq_map (items : List Value) :
    documentForms items = items.map Value.documentForm := by
  -- The recursion over items is the one that a map makes.
  induction items with
  | nil => rfl
  | cons item rest ih => rw [documentForms, ih, List.map_cons]

/-- Every member is written on its own, and keeps its key. -/
theorem memberDocumentForms_eq_map (members : Members) :
    memberDocumentForms members = members.map fun member => (member.1, member.2.documentForm) := by
  -- The recursion over members is the one that a map makes, with the keys kept.
  induction members with
  | nil => rfl
  | cons member rest ih => rw [memberDocumentForms, ih, List.map_cons]

/-- A scalar is its own document. -/
theorem Value.documentForm_scalar {value : Value} (scalar : value.isScalar = true) :
    value.documentForm = value := by
  cases value with
  | null | bool | int | float | text => rfl
  | _ => cases scalar

/-- A container is written as the documents of its parts. -/
theorem Value.documentForm_container {value : Value} (container : value.isContainer = true) :
    value.documentForm = value.rebuilt documentForm := by
  -- Each of the three containers is built again from the documents of its parts.
  cases value with
  | list | tuple => rw [documentForm, documentForms_eq_map, rebuilt]
  | object => rw [documentForm, memberDocumentForms_eq_map, rebuilt]
  | _ => cases container

/-- Raw data is its own document, with lists for its tuples. -/
theorem Value.documentForm_of_raw {value : Value} (raw : value.isRaw = true) :
    value.documentForm = value.withLists := by
  -- The induction is over containers and their parts, so the three kinds of them are one case.
  induction value using container_induction with
  | atom value atom =>
    cases value with
    | list | tuple | object => cases atom
    | condition => cases raw
    | _ => rfl
  | container value container ih =>
    rw [documentForm_container container, withLists_container container]
    exact rebuilt_congr fun part member =>
      ih part member ((isRaw_container container).mp raw part member)

mutual

/-- A condition that is written as a document stands for that document. -/
theorem Condition.documentForm_of_toWire {built : Condition} {wire : Value}
    (written : built.toWire = .ok wire) : built.documentForm = wire := by
  -- A node is only written after all its parts are, so each part has a document.
  cases built with
  | literal | field => exact Except.ok.inj written
  | unchecked => cases written
  | comparison comparator left right =>
    obtain ⟨_, first, rest⟩ := bind_eq_ok.mp written
    obtain ⟨_, second, rest⟩ := bind_eq_ok.mp rest
    rw [Condition.documentForm, documentForm_of_operandWire first,
      documentForm_of_operandWire second]
    exact Except.ok.inj rest
  | junction connective operands =>
    obtain ⟨_, each, rest⟩ := bind_eq_ok.mp written
    rw [Condition.documentForm, documentForms_of_operandsWire each]
    exact Except.ok.inj rest
  | branch test accepted rejected =>
    obtain ⟨_, first, rest⟩ := bind_eq_ok.mp written
    obtain ⟨_, second, rest⟩ := bind_eq_ok.mp rest
    obtain ⟨_, third, rest⟩ := bind_eq_ok.mp rest
    rw [Condition.documentForm, documentForm_of_operandWire first,
      documentForm_of_operandWire second, documentForm_of_operandWire third]
    exact Except.ok.inj rest
termination_by sizeOf built

/-- A part that is written as a document stands for that document. -/
theorem documentForm_of_operandWire {operand wire : Value}
    (written : operandWire operand = .ok wire) : operand.documentForm = wire := by
  -- Only a built part is written, and it is written as its condition is.
  cases operand with
  | condition built => exact Condition.documentForm_of_toWire written
  | _ => cases written
termination_by sizeOf operand

/-- Parts that are written as documents stand for those documents. -/
theorem documentForms_of_operandsWire {operands wires : List Value}
    (written : operandsWire operands = .ok wires) : documentForms operands = wires := by
  -- All parts are written if the list is, the first one before the others.
  cases operands with
  | nil => exact Except.ok.inj written
  | cons operand rest =>
    obtain ⟨_, head, left⟩ := bind_eq_ok.mp written
    obtain ⟨_, tail, left⟩ := bind_eq_ok.mp left
    rw [documentForms, documentForm_of_operandWire head, documentForms_of_operandsWire tail]
    exact Except.ok.inj left
termination_by sizeOf operands

end

/-- The tag of a node that is built over operands, and its operands. -/
def Condition.node? : Condition → Option (String × List Value)
  | .comparison comparator left right => some (comparator.tag, [left, right])
  | .junction connective operands => some (connective.tag, operands)
  | .branch test accepted rejected => some (branchTag, [test, accepted, rejected])
  | _ => none

/-- A node is written as the documents of its operands under its tag. -/
theorem Condition.documentForm_node {built : Condition} {tag : String} {operands : List Value}
    (node : built.node? = some (tag, operands)) :
    built.documentForm = .object [(tag, .list (operands.map Value.documentForm))] := by
  -- The three kinds of nodes differ in where they keep their operands.
  cases built <;> cases node <;> simp [documentForm, documentForms_eq_map]

/-- An operator over operands in a number that it takes is a node under its tag. -/
theorem Operator.node?_assemble {operator : Operator} {operands : List Value}
    (admitted : operator.admits operands.length = true) :
    (operator.assemble operands).node? = some (operator.tag, operands) := by
  -- A number of operands that the operator takes fixes how they are arranged.
  cases arranged admitted <;> rfl

/-- Well-typed values: data, nodes over texts, scalars and resolved operators, and either of them
within the other. -/
inductive WellTyped : Value → Prop
  | scalar {value : Value} : value.isScalar = true → WellTyped value
  | bytes (octets : List UInt8) : WellTyped (.bytes octets)
  | container {value : Value} : value.isContainer = true →
    (∀ part ∈ value.parts, WellTyped part) → WellTyped value
  | literal {content : Value} : content.isScalar = true → WellTyped (.condition (.literal content))
  | field (path : String) : WellTyped (.condition (.field (.text path)))
  -- A group without operands is well typed, although it is not well formed.
  | node {built : Condition} {tag : String} {operands : List Value} :
    built.node? = some (tag, operands) → (∀ operand ∈ operands, WellTyped operand) →
    WellTyped (.condition built)

namespace WellTyped

/-- Raw data is well typed. -/
theorem of_raw {value : Value} (raw : value.isRaw = true) : WellTyped value := by
  -- Raw data holds no conditions, so containers and scalars are all there is to it.
  induction value using Value.container_induction with
  | atom value atom =>
    cases value with
    | list | tuple | object => cases atom
    | condition => cases raw
    | bytes octets => exact .bytes octets
    | _ => exact .scalar rfl
  | container value container ih =>
    exact .container container fun part member =>
      ih part member ((Value.isRaw_container container).mp raw part member)

/-- A well-formed condition is well typed. -/
theorem of_wellFormed {built : Condition} (wellFormed : built.isWellFormed = true) :
    WellTyped (.condition built) := by
  -- The three kinds of well-formed conditions are three kinds of well-typed values.
  induction built, wellFormed using Condition.wellFormed_induction with
  | literal content scalar => exact .literal scalar
  | field path => exact .field path
  | node operator parts admitted formed ih =>
    have operands : operator.admits (parts.map Value.condition).length = true := by
      simpa using admitted
    exact .node (Operator.node?_assemble operands) (List.forall_mem_map.mpr ih)

variable {value : Value} (wellTyped : WellTyped value)

include wellTyped

/-- The document of a well-typed value is raw data. -/
theorem isRaw_documentForm : value.documentForm.isRaw = true := by
  -- A condition disappears into the document that it is written as, part by part.
  induction wellTyped with
  | scalar scalar =>
    rw [Value.documentForm_scalar scalar]
    exact Value.isRaw_scalar scalar
  | bytes octets => rfl
  | container container each ih =>
    -- A container that is built again has the documents of its parts for parts.
    rw [Value.documentForm_container container,
      Value.isRaw_container (Value.isContainer_rebuilt container _), Value.parts_rebuilt]
    exact List.forall_mem_map.mpr ih
  | literal scalar => exact Value.isRaw_scalar scalar
  | field path => rfl
  | @node built tag operands node each ih =>
    have written : areRaw (operands.map Value.documentForm) = true :=
      areRaw_iff.mpr (List.forall_mem_map.mpr ih)
    rw [Value.documentForm, Condition.documentForm_node node]
    simp [Value.isRaw, membersAreRaw, written]

/-- The document of a well-typed value holds no tuples. -/
theorem withLists_documentForm : value.documentForm.withLists = value.documentForm := by
  induction wellTyped with
  | scalar scalar =>
    rw [Value.documentForm_scalar scalar, Value.withLists_scalar scalar]
  | bytes octets => rfl
  | container container each ih =>
    -- The container itself was built again as no tuple, and its parts hold none either.
    rw [Value.documentForm_container container,
      Value.withLists_container (Value.isContainer_rebuilt container _), Value.rebuilt_rebuilt]
    exact Value.rebuilt_congr ih
  | literal scalar => exact Value.withLists_scalar scalar
  | field path => rfl
  | @node built tag operands node each ih =>
    -- The operands are documents without tuples by then, and stand in a list.
    have same : (operands.map Value.documentForm).map Value.withLists =
        operands.map Value.documentForm := by
      rw [List.map_map]
      exact List.map_congr_left ih
    rw [Value.documentForm, Condition.documentForm_node node]
    simp only [Value.withLists, membersWithLists, itemsWithLists_eq_map, same]

end WellTyped

end DeliveryRules
