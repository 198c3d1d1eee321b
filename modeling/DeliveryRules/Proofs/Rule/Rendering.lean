import DeliveryRules.Proofs.Condition.Parser
import DeliveryRules.Proofs.Text.Numeral
import DeliveryRules.Rule.Rendering

/-! A document and the condition it describes are shown as the same JSON, cut off at one level. -/

namespace DeliveryRules

/-- An application has two levels of containers, its object and its arguments, before the rest. -/
theorem bounded_application {value : Value} {operator : Operator} {items : List Value}
    (levels : Int) (applied : value.application? = some (operator, items)) :
    bounded levels value = boundedNode levels operator.tag (boundedItems (levels - 2) items) := by
  obtain ⟨argument, rfl, listed, _⟩ := Value.application?_eq_some.mp applied
  have next : levels - 1 - 1 = levels - 2 := by omega
  -- The two levels run out one after the other: at the object, or at its list of arguments.
  by_cases none : levels ≤ 0
  · simp [bounded, boundedNode, none]
  by_cases one : levels ≤ 1
  · have spent : levels - 1 ≤ 0 := by omega
    rcases Value.items?_eq_some.mp listed with rfl | rfl <;>
      simp [bounded, boundedMembers, boundedNode, none, one, spent]
  · have left : ¬levels - 1 ≤ 0 := by omega
    rcases Value.items?_eq_some.mp listed with rfl | rfl <;>
      cases shown : boundedItems (levels - 2) items <;>
      simp [bounded, boundedMembers, boundedNode, none, one, left, next, shown]

/-- A built node has the same two levels before its operands. -/
theorem bounded_assemble {operator : Operator} {operands : List Value} (levels : Int)
    (admitted : operator.admits operands.length = true) :
    bounded levels (.condition (operator.assemble operands)) =
      boundedNode levels operator.tag (boundedItems (levels - 2) operands) := by
  -- A comparison and a choice name their operands, and a group has them in a list.
  cases Operator.arranged admitted with
  | compare comparator left right =>
    simp [Operator.assemble, Operator.tag, bounded, boundedItems, Option.bind_assoc]
  | join connective first rest => simp [Operator.assemble, Operator.tag, bounded]
  | branch test accepted rejected =>
    simp [Operator.assemble, Operator.tag, bounded, boundedItems, Option.bind_assoc]

/-- Items are cut off one by one. -/
theorem boundedItems_eq_mapM (levels : Int) (items : List Value) :
    boundedItems levels items = items.mapM (bounded levels) := by
  -- An item that is not shown leaves nothing of the others.
  induction items with
  | nil => rfl
  | cons item rest ih =>
    rw [boundedItems, ih, List.mapM_cons]

/-- Items are worked on like the conditions they are paired with, if each of them is. -/
theorem mapM_conditions_congr {m : Type → Type} [Monad m] [LawfulMonad m] {α : Type}
    {step : Value → m α} {pairs : List (Value × Condition)}
    (each : ∀ pair ∈ pairs, step pair.1 = step (.condition pair.2)) :
    (pairs.map Prod.fst).mapM step = ((pairs.map Prod.snd).map .condition).mapM step := by
  -- Both sides take the same step on each pair, from the left.
  induction pairs with
  | nil => rfl
  | cons pair rest ih =>
    have head := each pair (by simp)
    have tail := ih fun other member => each other (by simp [member])
    simp only [List.map_cons, List.mapM_cons, head, tail]

/-- A scalar has no containers to cut off, and none when it is a literal. -/
theorem bounded_literal {value : Value} (levels : Int) (scalar : value.isScalar = true) :
    bounded levels value = bounded levels (.condition (.literal value)) := by
  cases value with
  | condition built => cases scalar
  | _ => simp only [bounded]

/-- A document and the condition it describes are cut off alike, at every level. -/
theorem Describes.bounded_eq {within : Int} {value : Value} {built : Condition}
    (described : Describes within value built) (levels : Int) :
    bounded levels value = bounded levels (.condition built) := by
  -- Both forms of a node take two levels, so the levels left stay the same all the way down.
  induction described generalizing levels with
  | built condition positive => rfl
  | literal positive scalar => exact bounded_literal levels scalar
  | field path positive =>
    by_cases spent : levels ≤ 0 <;> simp [bounded, boundedMembers, spent]
  | @node within value operator pairs positive applied each ih =>
    have admitted := Value.admits_of_application applied
    rw [bounded_application levels applied, bounded_assemble levels (by simpa using admitted),
      boundedItems_eq_mapM, boundedItems_eq_mapM,
      mapM_conditions_congr fun pair member => ih pair member (levels - 2)]

/-- A document and the condition it describes are shown as the same JSON. -/
theorem Describes.renderRaw_eq {within : Int} {value : Value} {built : Condition}
    (described : Describes within value built) (nesting : Int) :
    renderRaw nesting value = renderRaw nesting (.condition built) := by
  simp only [renderRaw, described.bounded_eq]

section Writable

variable {nesting : Int}

/-- The object of a node is writable if its arguments are, wherever it is cut off. -/
theorem isWritable_boundedNode {levels : Int} {tag : String} {arguments : Option (List Value)}
    {shown : Value} (each : ∀ items, arguments = some items → areWritable items = true)
    (kept : boundedNode levels tag arguments = some shown) : shown.isWritable = true := by
  -- The object itself is cut off, or its list, or neither.
  unfold boundedNode at kept
  split_ifs at kept
  · cases kept
    rfl
  · cases kept
    rfl
  · obtain ⟨items, given, rfl⟩ := Option.map_eq_some_iff.mp kept
    simpa [Value.isWritable, membersAreWritable] using each items given

mutual

/-- What is left of a value whose numbers are short has no others. -/
theorem Value.isWritable_bounded (levels : Int) (value : Value) (writable : value.isWritable = true)
    {shown : Value} (kept : bounded levels value = some shown) : shown.isWritable = true := by
  -- A container is cut off as a whole, or each of its parts is.
  cases value with
  | list items | tuple items =>
    rw [bounded] at kept
    split_ifs at kept
    · cases kept
      rfl
    · obtain ⟨rest, given, rfl⟩ := Option.map_eq_some_iff.mp kept
      exact areWritable_boundedItems _ items writable given
  | object members =>
    rw [bounded] at kept
    split_ifs at kept
    · cases kept
      rfl
    · obtain ⟨rest, given, rfl⟩ := Option.map_eq_some_iff.mp kept
      exact membersAreWritable_boundedMembers _ members writable given
  | condition built =>
    -- Whatever the node is, its object is built over what is left of its operands.
    simp only [Value.isWritable] at writable
    cases built with
    | literal content =>
      cases content with
      | condition inner =>
        simp only [bounded, Option.some.injEq] at kept
        subst kept
        exact writable
      | _ =>
        simp only [bounded] at kept
        exact Value.isWritable_bounded levels _ writable (by simpa only [bounded] using kept)
    | field path =>
      rw [bounded] at kept
      split_ifs at kept
      · cases kept
        rfl
      · obtain ⟨rest, given, rfl⟩ := Option.map_eq_some_iff.mp kept
        have part := Value.isWritable_bounded _ path writable given
        simpa [Value.isWritable, membersAreWritable] using part
    | comparison comparator left right =>
      simp only [Condition.isWritable, Bool.and_eq_true] at writable
      rw [bounded] at kept
      refine isWritable_boundedNode (fun items given => ?_) kept
      simp only [Option.bind_eq_bind, Option.bind_eq_some_iff, Option.pure_def] at given
      obtain ⟨first, head, second, next, same⟩ := given
      cases same
      have first := Value.isWritable_bounded _ left writable.1 head
      have second := Value.isWritable_bounded _ right writable.2 next
      simp [areWritable, first, second]
    | unchecked operator left right => cases kept
    | junction connective operands =>
      rw [bounded] at kept
      exact isWritable_boundedNode
        (fun items given => areWritable_boundedItems _ operands writable given) kept
    | branch test accepted rejected =>
      simp only [Condition.isWritable, Bool.and_eq_true] at writable
      rw [bounded] at kept
      refine isWritable_boundedNode (fun items given => ?_) kept
      simp only [Option.bind_eq_bind, Option.bind_eq_some_iff, Option.pure_def] at given
      obtain ⟨first, head, second, next, third, last, same⟩ := given
      cases same
      have first := Value.isWritable_bounded _ test writable.1.1 head
      have second := Value.isWritable_bounded _ accepted writable.1.2 next
      have third := Value.isWritable_bounded _ rejected writable.2 last
      simp [areWritable, first, second, third]
  | _ =>
    simp only [bounded, Option.some.injEq] at kept
    subst kept
    exact writable
termination_by sizeOf value

/-- What is left of some items whose numbers are short has no others. -/
theorem areWritable_boundedItems (levels : Int) (items : List Value)
    (writable : areWritable items = true) {shown : List Value}
    (kept : boundedItems levels items = some shown) : areWritable shown = true := by
  cases items with
  | nil =>
    cases kept
    rfl
  | cons item rest =>
    simp only [areWritable, Bool.and_eq_true] at writable
    simp only [boundedItems, Option.bind_eq_bind, Option.bind_eq_some_iff, Option.pure_def] at kept
    -- The first item and the others are shown if the list is.
    obtain ⟨first, head, others, tail, same⟩ := kept
    cases same
    have first := Value.isWritable_bounded _ item writable.1 head
    have others := areWritable_boundedItems _ rest writable.2 tail
    simp [areWritable, first, others]
termination_by sizeOf items

/-- What is left of some members whose numbers are short has no others. -/
theorem membersAreWritable_boundedMembers (levels : Int) (members : List (String × Value))
    (writable : membersAreWritable members = true) {shown : List (String × Value)}
    (kept : boundedMembers levels members = some shown) : membersAreWritable shown = true := by
  match members with
  | [] =>
    cases kept
    rfl
  | (key, value) :: rest =>
    simp only [membersAreWritable, Bool.and_eq_true] at writable
    simp only [boundedMembers, Option.bind_eq_bind, Option.bind_eq_some_iff,
      Option.pure_def] at kept
    obtain ⟨first, head, others, tail, same⟩ := kept
    cases same
    have first := Value.isWritable_bounded _ value writable.1 head
    have others := membersAreWritable_boundedMembers _ rest writable.2 tail
    simp [membersAreWritable, first, others]
termination_by sizeOf members

end

/-- A value whose numbers are short is shown as JSON. -/
theorem renderRaw_total {value : Value} (writable : value.isWritable = true) :
    ∃ text, renderRaw nesting value = .ok text := by
  unfold renderRaw
  -- What cannot be shown at all is given a text of its own.
  split
  · rename_i shown kept
    rw [value.isWritable_bounded nesting writable kept]
    exact ⟨_, rfl⟩
  · exact ⟨_, rfl⟩

/-- A value whose numbers are short is shown as it is written. -/
theorem renderLiteral_total {value : Value} (writable : value.isWritable = true) :
    ∃ text, renderLiteral nesting value = .ok text := by
  -- Only whole numbers and containers could have digits too many.
  cases value with
  | null | text | bytes => exact ⟨_, rfl⟩
  | bool truth => cases truth <;> exact ⟨_, rfl⟩
  | int n =>
    rw [Value.isWritable] at writable
    exact ⟨_, by rw [renderLiteral, writable, NumeralError.guard_true]⟩
  | float x => cases x <;> exact ⟨_, rfl⟩
  | list | tuple | object | condition => exact renderRaw_total writable

end Writable

end DeliveryRules
