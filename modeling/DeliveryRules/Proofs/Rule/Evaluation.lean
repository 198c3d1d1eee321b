import DeliveryRules.Proofs.Condition.WellFormed
import DeliveryRules.Proofs.Path.Resolve
import DeliveryRules.Proofs.Rule.Operation
import DeliveryRules.Proofs.Rule.Reference
import DeliveryRules.Rule.Evaluation

/-! Evaluation of nodes over parts that have values, and of conditions that are well formed. -/

namespace DeliveryRules

/-- Whether all of some values count as true, or any of them. -/
def Connective.combine : Connective → List Value → Bool
  | .all, values => values.all Value.isTruthy
  | .any, values => values.any Value.isTruthy

/-- What an operator makes of the values of its operands, values that are missing being null. -/
def Operator.result : Operator → List Value → Value
  | .compare comparator, values =>
    .bool (comparator.holds (values.getD 0 .null) (values.getD 1 .null))
  | .join connective, values => .bool (connective.combine values)
  | .branch, values =>
    if (values.getD 0 .null).isTruthy then values.getD 1 .null else values.getD 2 .null

/-- A value that settles a group settles it whatever the others are, and any other is neutral. -/
theorem Connective.combine_cons (connective : Connective) (value : Value) (values : List Value) :
    connective.combine (value :: values) =
      if value.isTruthy == connective.settling then connective.settling
      else connective.combine values := by
  cases connective <;> cases truth : value.isTruthy <;> simp [combine, settling, truth]

section Nodes

variable {limit depth : Int} {document : Value} {outcome : Value → Value}

/-- A group of members that all have values comes to what the values combine to, though the
evaluation stops at the first member that settles it. -/
theorem evaluateJunction_eq (connective : Connective) {operands : List Value}
    (each : ∀ operand ∈ operands,
      evaluateAt limit document depth operand = .ok (outcome operand)) :
    evaluateJunction limit document depth connective operands =
      .ok (.bool (connective.combine (operands.map outcome))) := by
  -- Each member either settles the group or leaves it to the rest.
  induction operands with
  | nil => cases connective <;> rfl
  | cons operand rest ih =>
    have tail := ih fun other member => each other (by simp [member])
    rw [List.map_cons, Connective.combine_cons]
    simp only [evaluateJunction, each operand (by simp), Bind.bind, Except.bind]
    split
    · rfl
    · exact tail

/-- An operator over operands that all have values makes its result of them. -/
theorem evaluateAt_assemble {operator : Operator} {operands : List Value}
    (admitted : operator.admits operands.length = true) (within : depth ≤ limit)
    (each : ∀ operand ∈ operands,
      evaluateAt limit document (depth + 1) operand = .ok (outcome operand)) :
    evaluateAt limit document depth (.condition (operator.assemble operands)) =
      .ok (operator.result (operands.map outcome)) := by
  have shallow : ¬limit < depth := by omega
  -- The number of operands is that of the operator, so each has its place.
  cases Operator.arranged admitted with
  | compare comparator left right =>
    simp only [Operator.assemble, evaluateAt, if_neg shallow, List.getD_cons_zero,
      List.getD_cons_succ, each left (by simp), each right (by simp)]
    rfl
  | join connective first rest =>
    simp only [Operator.assemble, evaluateAt, if_neg shallow, List.isEmpty_cons,
      Bool.false_eq_true, if_false]
    exact evaluateJunction_eq connective each
  | branch test accepted rejected =>
    -- Only one outcome is evaluated, the one that the value of the test chooses.
    simp only [Operator.assemble, evaluateAt, if_neg shallow, List.getD_cons_zero,
      List.getD_cons_succ, each test (by simp), each accepted (by simp), each rejected (by simp),
      Operator.result, List.map_cons, Bind.bind, Except.bind]
    split <;> rfl

end Nodes

/-- A reference has a value exactly if its path can be followed. -/
theorem referenceValue_eq (document : Value) (path : String) :
    referenceValue document path =
      if isFollowable path then .ok ((resolvePath? document path).getD .null)
      else .error (.numeral .tooManyDigits) := by
  rw [referenceValue, resolvePath_eq]
  cases isFollowable path <;> rfl

section Writable

/-- The number of a byte is short. -/
theorem isShort_octet (octet : UInt8) : isShort (Int.ofNat octet.toNat) = true := by
  -- Three digits are enough for a byte.
  rw [isShort_iff]
  calc octet.toNat < tenTo 3 := octet.toNat_lt.trans (by decide)
    _ ≤ tenTo digitLimit := tenTo_le (by decide)

/-- What is found in a value whose numbers are short is such a value. -/
theorem Segment.isWritable_follow? {segment : Segment} {value found : Value}
    (writable : value.isWritable = true) (followed : segment.follow? value = some found) :
    found.isWritable = true := by
  have hereditary := Value.isHereditary_isWritable
  -- A key looks into objects only, and an index into sequences.
  cases segment with
  | key name =>
    cases value with
    | object members =>
      rw [hereditary.object, List.all_eq_true] at writable
      exact writable _ (Members.mem_of_lookup followed)
    | _ => cases followed
  | index n =>
    cases value with
    | list items | tuple items =>
      rw [hereditary.sequence rfl, List.all_eq_true] at writable
      exact writable _ (List.mem_of_getElem? followed)
    | bytes octets =>
      -- What is found in a byte string is a byte.
      obtain ⟨octet, _, rfl⟩ := Option.map_eq_some_iff.mp followed
      exact isShort_octet octet
    | _ => cases followed
  | wildcard => cases followed

/-- What a path leads to in a document whose numbers are short is such a value. -/
theorem isWritable_resolvePath? {document found : Value} {path : String}
    (writable : document.isWritable = true) (resolved : resolvePath? document path = some found) :
    found.isWritable = true := by
  have steps : ∀ segments, followSegments? document segments = some found →
      found.isWritable = true := by
    intro segments
    clear resolved
    -- The document is generalised, since each segment goes on from a part.
    induction segments generalizing document with
    | nil =>
      rintro ⟨⟩
      exact writable
    | cons segment rest ih =>
      intro followed
      rw [followSegments?_cons, Option.bind_eq_some_iff] at followed
      obtain ⟨next, first, others⟩ := followed
      exact ih (segment.isWritable_follow? writable first) others
  rw [resolvePath?] at resolved
  split_ifs at resolved
  exact steps _ resolved

end Writable

/-- Whether all the paths that a condition refers to can be followed. -/
def Condition.IsFollowable (built : Condition) : Prop :=
  ∀ path ∈ built.references, isFollowable path = true

/-- The paths of a node can be followed exactly if those of its parts can. -/
theorem Operator.isFollowable_assemble {operator : Operator} {parts : List Condition}
    (admitted : operator.admits parts.length = true) :
    (operator.assemble (parts.map .condition)).IsFollowable ↔
      ∀ part ∈ parts, part.IsFollowable := by
  unfold Condition.IsFollowable
  rw [references_assemble (by simpa using admitted), List.flatMap_map]
  simp only [List.mem_flatMap, Value.references, forall_exists_index, and_imp]
  exact ⟨fun each part listed path referred => each path part listed referred,
    fun each path part listed referred => each part listed path referred⟩

/--
A well-formed condition has a value on every document, as far as the limit covers its depth, if its
paths can be followed.
-/
theorem evaluateAt_total {limit depth : Int} {built : Condition} (document : Value)
    (wellFormed : built.isWellFormed = true)
    (followable : built.IsFollowable) (within : depth + built.depth ≤ limit + 1) :
    ∃ value, evaluateAt limit document depth (.condition built) = .ok value := by
  -- The depth is generalised, since the operands stand one level further down.
  induction built, wellFormed using Condition.wellFormed_induction generalizing depth with
  | literal content scalar =>
    have shallow : ¬limit < depth := by simp only [Condition.depth] at within; omega
    exact ⟨content, by simp only [evaluateAt, if_neg shallow]⟩
  | field path =>
    have shallow : ¬limit < depth := by simp only [Condition.depth] at within; omega
    have short : isFollowable path = true := followable path (by simp [Condition.references])
    refine ⟨(resolvePath? document path).getD .null, ?_⟩
    simp only [evaluateAt, if_neg shallow, referenceValue_eq, short, if_true]
  | node operator parts admitted formed ih =>
    have operands : operator.admits (parts.map Value.condition).length = true := by
      simpa using admitted
    -- The operands stand one level deeper and are at least one level shallower.
    rw [Operator.depth_assemble operands] at within
    rw [Operator.isFollowable_assemble admitted] at followable
    have each : ∀ operand ∈ parts.map Value.condition,
        ∃ value, evaluateAt limit document (depth + 1) operand = .ok value := by
      intro operand member
      obtain ⟨part, listed, rfl⟩ := List.mem_map.mp member
      have shallower := depth_le_deepest listed
      exact ih part listed (followable part listed) (by omega)
    -- Each operand has a value, and their operator makes its result of them.
    choose! outcome evaluated using each
    exact ⟨_, evaluateAt_assemble operands (by omega) evaluated⟩

section Length

/-- Whether there is a value whose numbers are short, or else none because of an index alone. -/
def FailsOnlyForLength (outcome : Except EvaluationError Value) : Prop :=
  match outcome with
  | .ok value => value.isWritable = true
  | .error reason => reason = .numeral .tooManyDigits

/-- What fails only for length goes on to what does. -/
theorem FailsOnlyForLength.bind {outcome : Except EvaluationError Value}
    {next : Value → Except EvaluationError Value} (first : FailsOnlyForLength outcome)
    (after : ∀ value : Value, value.isWritable = true → FailsOnlyForLength (next value)) :
    FailsOnlyForLength (outcome >>= next) := by
  cases outcome with
  | ok value => exact after value first
  | error reason => exact first

variable {limit depth : Int} {document : Value}

/-- A reference into a document whose numbers are short fails only for an index. -/
theorem failsOnlyForLength_reference (writable : document.isWritable = true) (path : String) :
    FailsOnlyForLength (referenceValue document path) := by
  rw [referenceValue_eq]
  -- A path that cannot be followed fails for the length of an index.
  split_ifs with followable
  · show ((resolvePath? document path).getD .null).isWritable = true
    cases found : resolvePath? document path with
    | none => rfl
    | some value => exact isWritable_resolvePath? writable found
  · rfl

/-- A group fails only for length if its members do. -/
theorem failsOnlyForLength_junction (connective : Connective) {operands : List Value}
    (each : ∀ operand ∈ operands,
      FailsOnlyForLength (evaluateAt limit document depth operand)) :
    FailsOnlyForLength (evaluateJunction limit document depth connective operands) := by
  -- The members are evaluated from the left, as far as the group is open.
  induction operands with
  | nil => rfl
  | cons first rest ih =>
    obtain ⟨here, later⟩ := List.forall_mem_cons.mp each
    refine here.bind fun value _ => ?_
    -- Either the member settles the group, or the others go on to do so.
    split
    · rfl
    · exact ih later

/-- A well-formed condition whose numbers are short fails only for length, as far as the limit
covers its depth. -/
theorem failsOnlyForLength_evaluateAt {built : Condition} (writable : document.isWritable = true)
    (wellFormed : built.isWellFormed = true) (own : (Value.condition built).isWritable = true)
    (within : depth + built.depth ≤ limit + 1) :
    FailsOnlyForLength (evaluateAt limit document depth (.condition built)) := by
  -- The depth is generalised, since the operands stand one level further down.
  induction built, wellFormed using Condition.wellFormed_induction generalizing depth with
  | literal content scalar =>
    have shallow : ¬limit < depth := by simp only [Condition.depth] at within; omega
    simp only [evaluateAt, if_neg shallow]
    exact own
  | field path =>
    have shallow : ¬limit < depth := by simp only [Condition.depth] at within; omega
    simp only [evaluateAt, if_neg shallow]
    exact failsOnlyForLength_reference writable path
  | node operator parts admitted formed ih =>
    have operands : operator.admits (parts.map Value.condition).length = true := by
      simpa using admitted
    rw [Operator.depth_assemble operands] at within
    rw [Value.isHereditary_isWritable.node operands, List.all_eq_true] at own
    have shallow : ¬limit < depth := by omega
    have each : ∀ operand ∈ parts.map Value.condition,
        FailsOnlyForLength (evaluateAt limit document (depth + 1) operand) := by
      intro operand member
      obtain ⟨part, listed, rfl⟩ := List.mem_map.mp member
      have shallower := depth_le_deepest listed
      exact ih part listed (own _ member) (by omega)
    generalize parts.map Value.condition = items at operands each
    -- Each operand that is evaluated fails only for length, and so does what is made of its value.
    cases Operator.arranged operands with
    | compare comparator left right =>
      simp only [Operator.assemble, evaluateAt, if_neg shallow, List.getD_cons_zero,
        List.getD_cons_succ]
      exact (each left (by simp)).bind fun _ _ => (each right (by simp)).bind fun _ _ => rfl
    | join connective first rest =>
      simp only [Operator.assemble, evaluateAt, if_neg shallow, List.isEmpty_cons,
        Bool.false_eq_true, if_false]
      exact failsOnlyForLength_junction connective each
    | branch test accepted rejected =>
      simp only [Operator.assemble, evaluateAt, if_neg shallow, List.getD_cons_zero,
        List.getD_cons_succ]
      refine (each test (by simp)).bind fun value _ => ?_
      split
      · exact each accepted (by simp)
      · exact each rejected (by simp)

end Length

end DeliveryRules
