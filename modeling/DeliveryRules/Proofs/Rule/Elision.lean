import DeliveryRules.Proofs.Condition.DocumentForm
import DeliveryRules.Proofs.Rule.Locality
import DeliveryRules.Proofs.Rule.Truncation

/-! What is shown of a value within a nesting limit is its document, cut off at that limit. -/

namespace DeliveryRules

section Parts

variable {levels : Int} {form : Value → Value}

/-- Items that are each shown are shown together, in order. -/
theorem boundedItems_of_each {items : List Value}
    (each : ∀ item ∈ items, bounded levels item = some (form item)) :
    boundedItems levels items = some (items.map form) := by
  -- The items are shown from the left, and one that is not shown leaves nothing.
  induction items with
  | nil => rfl
  | cons item rest ih =>
    obtain ⟨head, tail⟩ := List.forall_mem_cons.mp each
    rw [boundedItems, head, ih tail]
    rfl

/-- Members whose values are each shown are shown together, under their keys. -/
theorem boundedMembers_of_each {members : Members}
    (each : ∀ member ∈ members, bounded levels member.2 = some (form member.2)) :
    boundedMembers levels members =
      some (members.map fun member => (member.1, form member.2)) := by
  induction members with
  | nil => rfl
  | cons member rest ih =>
    obtain ⟨head, tail⟩ := List.forall_mem_cons.mp each
    rw [boundedMembers, head, ih tail]
    rfl

/-- A container that has a level is shown if its parts are, with a level less. -/
theorem bounded_container {value : Value} (container : value.isContainer = true)
    (left : 0 < levels)
    (each : ∀ part ∈ value.parts, bounded (levels - 1) part = some (form part)) :
    bounded levels value = some (value.rebuilt form) := by
  have unspent : ¬levels ≤ 0 := by omega
  -- Lists and tuples are shown alike, and members under their keys.
  cases value with
  | list items | tuple items =>
    have shown : boundedItems (levels - 1) items = some (items.map form) :=
      boundedItems_of_each each
    rw [bounded, if_neg unspent, shown]
    rfl
  | object members =>
    have shown := boundedMembers_of_each (List.forall_mem_map.mp each)
    rw [bounded, if_neg unspent, shown]
    rfl
  | _ => cases container

/-- A scalar is shown as it is, for there is nothing to cut off. -/
theorem bounded_scalar {value : Value} (levels : Int) (scalar : value.isScalar = true) :
    bounded levels value = some (value.truncated levels) := by
  cases value with
  | null | bool | int | float | text => rfl
  | _ => cases scalar

/-- A node is shown over its operands, which have two levels less. -/
theorem bounded_node {built : Condition} {tag : String} {operands : List Value}
    (node : built.node? = some (tag, operands)) :
    bounded levels (.condition built) =
      boundedNode levels tag (boundedItems (levels - 2) operands) := by
  -- A comparison and a choice name their operands, which makes no difference to a list of them.
  cases built <;> cases node <;> simp [bounded, boundedItems, Option.bind_assoc]

/-- The two levels of a node run out at its object or at its list, as those of a document do. -/
theorem boundedNode_eq_truncated (levels : Int) (tag : String) (operands : List Value) :
    boundedNode levels tag (some (operands.map (Value.truncated (levels - 2)))) =
      some ((Value.object [(tag, .list operands)]).truncated levels) := by
  -- Without a level there is no object, with one there is no list, and with two both are there.
  by_cases none : levels ≤ 0
  · rw [boundedNode, if_pos none, Value.truncated_spent rfl none]
  have outer : (Value.object [(tag, .list operands)]).truncated levels =
      .object [(tag, (Value.list operands).truncated (levels - 1))] :=
    Value.truncated_container rfl (by omega)
  by_cases one : levels ≤ 1
  · rw [boundedNode, if_neg none, if_pos one, outer, Value.truncated_spent rfl (by omega)]
  · have inner : (Value.list operands).truncated (levels - 1) =
        .list (operands.map (Value.truncated (levels - 1 - 1))) :=
      Value.truncated_container rfl (by omega)
    rw [boundedNode, if_neg none, if_neg one, outer, inner, Int.sub_sub]
    rfl

end Parts

/-- What is shown of a well-typed value is its document, cut off at the limit. -/
theorem WellTyped.bounded_eq {value : Value} (wellTyped : WellTyped value) (levels : Int) :
    bounded levels value = some (value.documentForm.truncated levels) := by
  -- Parts of a container are left one level less, and operands of a node two, in either form.
  induction wellTyped generalizing levels with
  | scalar scalar =>
    rw [Value.documentForm_scalar scalar]
    exact bounded_scalar levels scalar
  | bytes octets => rfl
  | @container value container each ih =>
    have kept := Value.isContainer_rebuilt container Value.documentForm
    rw [Value.documentForm_container container]
    rcases Int.lt_or_le 0 levels with left | spent
    · rw [bounded_container container left fun part member => ih part member (levels - 1),
        Value.truncated_container kept left, Value.rebuilt_rebuilt]
    · rw [bounded_spent container spent, Value.truncated_spent kept spent]
  | literal scalar =>
    rw [← bounded_literal levels scalar]
    exact bounded_scalar levels scalar
  | field path =>
    by_cases spent : levels ≤ 0 <;>
      simp [bounded, Value.documentForm, Condition.documentForm, Value.truncated, truncatedMembers,
        spent]
  | @node built tag operands node each ih =>
    have shown := boundedItems_of_each fun operand member => ih operand member (levels - 2)
    rw [bounded_node node, shown, Value.documentForm, Condition.documentForm_node node,
      ← boundedNode_eq_truncated, List.map_map]
    rfl

/-- Raw data that is shown is cut off at the limit, and nothing else becomes of it. -/
theorem bounded_raw {value : Value} (raw : value.isRaw = true) (levels : Int) :
    bounded levels value = some (value.truncated levels) := by
  rw [(WellTyped.of_raw raw).bounded_eq, Value.documentForm_of_raw raw, Value.truncated_withLists]

/--
What is shown of a well-typed value is its document, cut off at the nesting limit.

A value is well typed if it is raw data, a condition of scalars, texts and resolved operators, or
either within the other. The document of a condition is what it is written as, and that of raw data
is the data with lists for its tuples. Whatever the limit is, the value is shown as raw data that
nests within the limit, and as the whole document if that does so too. Shown again within a second
limit, it is what the closer of both limits shows of the value.
-/
theorem bounded_truncates {value : Value} (wellTyped : WellTyped value) :
    (∀ built wire, value = .condition built → built.toWire = .ok wire →
      value.documentForm = wire) ∧
    (value.isRaw = true → value.documentForm = value.withLists) ∧
    ∀ levels : Int, ∃ shown, bounded levels value = some shown ∧
      shown = value.documentForm.truncated levels ∧ shown.isRaw = true ∧
      (shown.nesting : Int) ≤ max levels 0 ∧
      ((value.documentForm.nesting : Int) ≤ levels → shown = value.documentForm) ∧
      ∀ others : Int, bounded others shown = bounded (min levels others) value := by
  refine ⟨?_, Value.documentForm_of_raw, fun levels => ?_⟩
  · -- What is written of a condition is its document.
    rintro built wire rfl written
    exact Condition.documentForm_of_toWire written
  have raw := Value.isRaw_truncated wellTyped.isRaw_documentForm levels
  refine ⟨_, wellTyped.bounded_eq levels, rfl, raw, Value.nesting_truncated_le _ levels, ?_, ?_⟩
  · -- With enough levels nothing is cut off, and tuples were lists before.
    intro within
    rw [Value.truncated_of_nesting_le within, wellTyped.withLists_documentForm]
  · intro others
    -- What is shown is raw, so showing it again only cuts it off once more.
    rw [bounded_raw raw, Value.truncated_truncated, wellTyped.bounded_eq]

/-- Nodes in a tuple are whole at five levels, and without their lists of operands at three. -/
theorem bounded_truncates_mixed :
    let rule : Condition := .comparison .atLeast (.condition (.field (.text "order.total")))
      (.condition (.literal (.int 50)))
    let value : Value := .object [("rules",
      .tuple [.condition rule, .condition (.junction .any []), .bytes [7]])]
    let wire : Value :=
      .object [(">=", .list [.object [("var", .text "order.total")], .int 50])]
    rule.toWire = .ok wire ∧ (Value.condition rule).documentForm = wire ∧ WellTyped value ∧
      (value.documentForm.nesting : Int) ≤ 5 ∧
      (∃ shown, bounded 5 value = some shown ∧
        shown = .object [("rules", .list [wire, .object [("or", .list [])], .bytes [7]])]) ∧
      ∃ shown, bounded 3 value = some shown ∧
        shown = .object [("rules",
          .list [.object [(">=", elided)], .object [("or", elided)], .bytes [7]])] ∧
        (shown.nesting : Int) ≤ 3 ∧ bounded 4 shown = bounded 3 value := by
  intro rule value wire
  -- The three parts of the tuple are well typed for three reasons.
  have node : WellTyped (.condition rule) := .of_wellFormed rfl
  have empty : WellTyped (.condition (.junction .any [])) := .node rfl (by simp)
  have items : WellTyped (.tuple [.condition rule, .condition (.junction .any []), .bytes [7]]) :=
    .container rfl (by simpa [Value.parts] using ⟨node, empty, .bytes [7]⟩)
  have mixed : WellTyped value := .container rfl (by simpa [value, Value.parts] using items)
  -- Once with as many levels as the document nests, and once with fewer.
  obtain ⟨whole, all, _, _, _, same, _⟩ := (bounded_truncates mixed).2.2 5
  obtain ⟨shown, part, cut, _, within, _, again⟩ := (bounded_truncates mixed).2.2 3
  have nested : (value.documentForm.nesting : Int) ≤ 5 := by decide
  exact ⟨rfl, (bounded_truncates node).1 rule wire rfl rfl, mixed, nested,
    ⟨whole, all, same nested⟩, shown, part, cut, within, again 4⟩

/-- Without a level no container is shown, not even an empty one, but everything else is. -/
example : bounded (-1) (.tuple []) = some elided ∧ bounded (-1) (.bytes [7]) = some (.bytes [7]) :=
  ⟨rfl, rfl⟩

end DeliveryRules
