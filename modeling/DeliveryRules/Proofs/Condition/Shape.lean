import DeliveryRules.Condition.Error
import DeliveryRules.Proofs.Condition.Operator
import DeliveryRules.Proofs.Value.Raw

/-! The shapes that a node of a document can have, judged without looking at its arguments. -/

namespace DeliveryRules.Value

/-- The operator and the arguments of a value that applies one to as many as it takes. -/
def application? : Value → Option (Operator × List Value)
  | .object [(tag, argument)] =>
    match Operator.ofTag? tag, argument.items? with
    | some operator, some items =>
      if operator.admits items.length then some (operator, items) else none
    | _, _ => none
  | _ => none

/-- Whether a value refers to a field by a path that is a text. -/
def isReference : Value → Bool
  | .object [(tag, .text _)] => tag == fieldTag
  | _ => false

/-- Whether a value is in itself a node: a scalar, a reference or an application. -/
def isWellShaped (value : Value) : Bool :=
  value.isScalar || value.isReference || value.application?.isSome

/-- Whether a key is one that nodes have: that of references or that of an operator. -/
def isKnownKey (tag : String) : Bool := tag == fieldTag || (Operator.ofTag? tag).isSome

/-- The place where a misshapen node is reported: at its operator key if that is a known one. -/
def faultPlace (location : Location) (value : Value) : Location :=
  match value with
  | .object [(tag, _)] => if isKnownKey tag then location.under tag else location
  | _ => location

/-- Whether what is wrong with a misshapen node can be told: of what is no path, all is shown. -/
def faultIsTellable (value : Value) : Bool :=
  match value with
  | .object [(tag, argument)] => tag != fieldTag || argument.isWritable
  | _ => true

/-- An application is an operator key over a sequence of an admitted length. -/
theorem application?_eq_some {value : Value} {operator : Operator} {items : List Value} :
    value.application? = some (operator, items) ↔
      ∃ argument, value = .object [(operator.tag, argument)] ∧ argument.items? = some items ∧
        operator.admits items.length = true := by
  -- The checks are made in the order of the conjuncts: a single key, a sequence, its length.
  constructor
  · intro applied
    unfold application? at applied
    split at applied
    · split at applied
      · rename_i found listed
        split_ifs at applied with admitted
        cases applied
        exact ⟨_, by rw [Operator.ofTag?_eq_some.mp found], listed, admitted⟩
      · cases applied
    · cases applied
  · rintro ⟨argument, rfl, listed, admitted⟩
    simp [application?, listed, admitted]

/-- A reference is the key of references over a text. -/
theorem isReference_iff {value : Value} :
    value.isReference = true ↔ ∃ path, value = .object [(fieldTag, .text path)] := by
  -- Only an object with one text in it is looked at further.
  constructor
  · intro reference
    unfold isReference at reference
    split at reference
    · rename_i tag path
      exact ⟨path, by rw [eq_of_beq reference]⟩
    · cases reference
  · rintro ⟨path, rfl⟩
    rfl

/-- A value that applies no operator is a scalar, a reference, or no node at all. -/
theorem leaf_cases {value : Value} (unapplied : value.application? = none) :
    value.isScalar = true ∨ (∃ path, value = .object [(fieldTag, .text path)]) ∨
      value.isWellShaped = false := by
  -- A node in shape is one of three things, and the third of them is ruled out.
  by_cases scalar : value.isScalar = true
  · exact .inl scalar
  by_cases reference : value.isReference = true
  · exact .inr (.inl (isReference_iff.mp reference))
  · exact .inr (.inr (by simp [isWellShaped, scalar, reference, unapplied]))

/-- The arguments of an application are smaller than it, so induction can descend. -/
theorem sizeOf_argument_lt {value argument : Value} {operator : Operator} {items : List Value}
    (applied : value.application? = some (operator, items)) (member : argument ∈ items) :
    sizeOf argument < sizeOf value := by
  -- The argument lies in a sequence, which lies in the object.
  obtain ⟨sequence, rfl, listed, admitted⟩ := application?_eq_some.mp applied
  have smaller := List.sizeOf_lt_of_mem member
  rcases items?_eq_some.mp listed with rfl | rfl <;> simp <;> omega

/-- Induction over documents: values that apply no operator, and operators over arguments. -/
@[elab_as_elim]
theorem document_induction {motive : Value → Prop}
    (leaf : ∀ value : Value, value.application? = none → motive value)
    (node : ∀ (value : Value) (operator : Operator) (items : List Value),
      value.application? = some (operator, items) → (∀ item ∈ items, motive item) → motive value)
    (value : Value) : motive value := by
  -- The arguments stand in sequences of either kind, so the descent is by size.
  induction size : sizeOf value using Nat.strongRecOn generalizing value with
  | ind _ ih =>
    cases applied : value.application? with
    | none => exact leaf value applied
    | some application =>
      obtain ⟨operator, items⟩ := application
      refine node value operator items applied fun item member => ?_
      exact ih (sizeOf item) (size ▸ sizeOf_argument_lt applied member) item rfl

/-- The arguments of an application come in a number that its operator takes. -/
theorem admits_of_application {value : Value} {operator : Operator} {items : List Value}
    (applied : value.application? = some (operator, items)) :
    operator.admits items.length = true := by
  obtain ⟨_, _, _, admitted⟩ := application?_eq_some.mp applied
  exact admitted

/-- What containers have by their parts an application has by its arguments. -/
theorem IsPartwise.application {holds : Value → Bool} (partwise : IsPartwise holds)
    {value : Value} {operator : Operator} {items : List Value}
    (applied : value.application? = some (operator, items)) :
    holds value = true ↔ ∀ item ∈ items, holds item = true := by
  obtain ⟨argument, rfl, listed, admitted⟩ := application?_eq_some.mp applied
  simp [partwise.object, partwise.sequence listed]

/-- An application is raw exactly if its arguments are. -/
theorem isRaw_application {value : Value} {operator : Operator} {items : List Value}
    (applied : value.application? = some (operator, items)) :
    value.isRaw = true ↔ ∀ item ∈ items, item.isRaw = true :=
  isPartwise_isRaw.application applied

/-- An application keeps its operator and has its changed arguments in a list. -/
theorem withLists_application {value : Value} {operator : Operator} {items : List Value}
    (applied : value.application? = some (operator, items)) :
    value.withLists = .object [(operator.tag, .list (items.map withLists))] := by
  -- The sequence becomes a list, whether it was one or a tuple.
  obtain ⟨argument, rfl, listed, admitted⟩ := application?_eq_some.mp applied
  rcases items?_eq_some.mp listed with rfl | rfl <;>
    simp [withLists, membersWithLists, itemsWithLists_eq_map]

end DeliveryRules.Value
