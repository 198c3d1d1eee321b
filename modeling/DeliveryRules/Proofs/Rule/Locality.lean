import DeliveryRules.Proofs.Rule.Explanation
import DeliveryRules.Proofs.Rule.Rendering
import DeliveryRules.Proofs.Value.Container

/-! The sentence of a document depends on its upper levels only, whatever lies below them. -/

namespace DeliveryRules

/-- One container inside a value, or the value itself, is replaced by another container. The value
is at level one, and what a container holds is a level below it. -/
inductive Replaced : Nat → Value → Value → Prop
  | here {old new : Value} : old.isContainer = true → new.isContainer = true → Replaced 1 old new
  | list {level : Nat} {old new : Value} (before after : List Value) : Replaced level old new →
    Replaced (level + 1) (.list (before ++ old :: after)) (.list (before ++ new :: after))
  | tuple {level : Nat} {old new : Value} (before after : List Value) : Replaced level old new →
    Replaced (level + 1) (.tuple (before ++ old :: after)) (.tuple (before ++ new :: after))
  | object {level : Nat} {old new : Value} (key : String) (before after : Members) :
    Replaced level old new →
    Replaced (level + 1) (.object (before ++ (key, old) :: after))
      (.object (before ++ (key, new) :: after))

namespace Replaced

variable {level : Nat} {old new : Value}

/-- Levels are counted from one. -/
theorem positive (replaced : Replaced level old new) : 0 < level := by
  cases replaced <;> omega

/-- A value has to be a container for one to be replaced in it, and it remains one. -/
theorem isContainer (replaced : Replaced level old new) :
    old.isContainer = true ∧ new.isContainer = true := by
  cases replaced with
  | here before after => exact ⟨before, after⟩
  | list | tuple | object => exact ⟨rfl, rfl⟩

end Replaced

section Containers

variable {value : Value} (container : value.isContainer = true)

include container

/-- A container is data. -/
theorem ne_condition_of_isContainer (built : Condition) : value ≠ .condition built := by
  intro same
  subst same
  cases container

/-- A container is no scalar. -/
theorem not_isScalar_of_isContainer : value.isScalar = false := by
  cases value <;> first | rfl | cases container

/-- A container is cut off where no level is left. -/
theorem bounded_spent {levels : Int} (spent : levels ≤ 0) : bounded levels value = some elided := by
  cases value <;> first | rw [bounded, if_pos spent] | cases container

end Containers

section Cutting

variable {levels : Int} {old new : Value} (same : bounded levels old = bounded levels new)

include same

/-- Items are cut off alike if those are that differ. -/
theorem boundedItems_replaced (before after : List Value) :
    boundedItems levels (before ++ old :: after) =
      boundedItems levels (before ++ new :: after) := by
  simp only [boundedItems_eq_mapM, List.mapM_append, List.mapM_cons, same]

/-- Members are cut off alike if those are that differ. -/
theorem boundedMembers_replaced (key : String) (before after : Members) :
    boundedMembers levels (before ++ (key, old) :: after) =
      boundedMembers levels (before ++ (key, new) :: after) := by
  -- The members before the changed one are cut off alike.
  induction before with
  | nil => simp only [List.nil_append, boundedMembers, same]
  | cons member rest ih =>
    obtain ⟨name, value⟩ := member
    simp only [List.cons_append, boundedMembers, ih]

end Cutting

/-- What is replaced below the levels that are shown is cut off before and after. -/
theorem Replaced.bounded_eq {level : Nat} {old new : Value} (replaced : Replaced level old new)
    {levels : Int} (below : levels < level) : bounded levels old = bounded levels new := by
  -- Every container on the way down takes one of the levels, until none is left.
  induction replaced generalizing levels with
  | here before after =>
    have spent : levels ≤ 0 := by omega
    rw [bounded_spent before spent, bounded_spent after spent]
  | @list level _ _ before after inner ih =>
    have next : levels - 1 < level := by omega
    have deeper := boundedItems_replaced (ih next) before after
    simp only [bounded, deeper]
  | @tuple level _ _ before after inner ih =>
    have next : levels - 1 < level := by omega
    have deeper := boundedItems_replaced (ih next) before after
    simp only [bounded, deeper]
  | @object level _ _ key before after inner ih =>
    have next : levels - 1 < level := by omega
    have deeper := boundedMembers_replaced (ih next) key before after
    simp only [bounded, deeper]

namespace Replaced

variable {level : Nat} {old new : Value}

/-- A container that was replaced can be put back. -/
theorem symm (replaced : Replaced level old new) : Replaced level new old := by
  -- Each way down is taken with both values in each other's place.
  induction replaced with
  | here before after => exact .here after before
  | list before after _ ih => exact .list before after ih
  | tuple before after _ ih => exact .tuple before after ih
  | object key before after _ ih => exact .object key before after ih

/-- Below the level of an object with a single key, it is replaced inside what the key is over. -/
theorem of_single {tag : String} {argument : Value}
    (replaced : Replaced level (.object [(tag, argument)]) new) (lower : 1 < level) :
    ∃ changed, new = .object [(tag, changed)] ∧ Replaced (level - 1) argument changed := by
  generalize whole : Value.object [(tag, argument)] = value at replaced
  cases replaced with
  | here => omega
  | list | tuple => cases whole
  | @object _ inside changed key before after inner =>
    -- The only member is the one whose value is changed, for it is among the members.
    have single : [(tag, argument)] = before ++ (key, inside) :: after := Value.object.inj whole
    obtain rfl : before = [] := by
      cases before with
      | nil => rfl
      | cons => simp at single
    cases single
    exact ⟨changed, rfl, inner⟩

/-- Below the level of a sequence, it is replaced inside one of the items. -/
theorem of_items {items : List Value} (replaced : Replaced level old new) (lower : 1 < level)
    (listed : old.items? = some items) :
    ∃ before inner changed after, items = before ++ inner :: after ∧
      new.items? = some (before ++ changed :: after) ∧ Replaced (level - 1) inner changed := by
  -- Only a sequence has items, and the value itself lies too high to be replaced.
  cases replaced with
  | here => omega
  | list before after inner | tuple before after inner =>
    -- Lists and tuples keep their kind, so the changed value has its items in the same order.
    cases listed
    exact ⟨before, _, _, after, rfl, rfl, inner⟩
  | object => cases listed

/-- Below the two levels of an application, it is replaced inside one of the arguments. -/
theorem of_application {operator : Operator} {items : List Value}
    (replaced : Replaced level old new) (lower : 2 < level)
    (applied : old.application? = some (operator, items)) :
    ∃ before inner changed after, items = before ++ inner :: after ∧
      new.application? = some (operator, before ++ changed :: after) ∧
      Replaced (level - 2) inner changed := by
  obtain ⟨argument, rfl, listed, admitted⟩ := Value.application?_eq_some.mp applied
  -- One level down to the list of the arguments, and one more to the argument.
  obtain ⟨sequence, rfl, below⟩ := replaced.of_single (by omega)
  obtain ⟨before, inner, changed, after, rfl, listed', deeper⟩ := below.of_items (by omega) listed
  -- The number of arguments stays the same, so the operator still takes them.
  have count : (before ++ changed :: after).length = (before ++ inner :: after).length := by simp
  have applied' : Value.application? (.object [(operator.tag, sequence)]) =
      some (operator, before ++ changed :: after) :=
    Value.application?_eq_some.mpr ⟨sequence, rfl, listed', count ▸ admitted⟩
  exact ⟨before, inner, changed, after, rfl, applied', deeper⟩

/-- What applies no operator applies none after a container below it is replaced. -/
theorem application?_eq_none (replaced : Replaced level old new) (lower : 2 < level)
    (unapplied : old.application? = none) : new.application? = none := by
  by_contra applied
  obtain ⟨⟨operator, items⟩, applied⟩ := Option.ne_none_iff_exists'.mp applied
  -- Otherwise putting the old container back would make an application of the old value.
  obtain ⟨_, _, _, _, _, applied', _⟩ := replaced.symm.of_application lower applied
  rw [unapplied] at applied'
  cases applied'

/-- There is no container to replace below a reference. -/
theorem not_isReference (replaced : Replaced level old new) (lower : 1 < level) :
    old.isReference = false := by
  by_contra named
  obtain ⟨path, rfl⟩ := Value.isReference_iff.mp (Bool.not_eq_false _ ▸ named)
  -- The path that a reference is over would have to be a container.
  obtain ⟨changed, _, below⟩ := replaced.of_single lower
  cases below.isContainer.1

/-- What is shown as a whole is the same JSON, if a container below its levels is replaced. -/
theorem renderRaw_eq (replaced : Replaced level old new) {nesting : Int} (below : nesting < level) :
    renderRaw nesting old = renderRaw nesting new := by
  rw [renderRaw, renderRaw, replaced.bounded_eq below]

/-- Data that is no node is shown as JSON, if it is a container. -/
theorem explainAt_unapplied (replaced : Replaced level old new) {limit nesting depth : Int}
    (shallow : ¬limit < depth) (lower : 1 < level) (unapplied : old.application? = none) :
    explainAt limit nesting depth old = shown (renderRaw nesting old) := by
  have container := replaced.isContainer.1
  rw [explainAt_data shallow (ne_condition_of_isContainer container) unapplied
      (replaced.not_isReference lower),
    renderLiteral_of_not_scalar (not_isScalar_of_isContainer container)]

end Replaced

/-- Items are put into words alike if those are that differ. -/
theorem explainItems_replaced {limit nesting depth : Int} {old new : Value}
    (same : explainAt limit nesting depth old = explainAt limit nesting depth new)
    (before after : List Value) :
    explainItems limit nesting depth (before ++ old :: after) =
      explainItems limit nesting depth (before ++ new :: after) := by
  simp only [explainItems_eq_mapM, List.mapM_append, List.mapM_cons, same]

/--
A container below what a sentence can reach is replaced without a change to the sentence.

A node that is put into words takes two levels, and JSON takes as many as its nesting allows.
-/
theorem Replaced.explainAt_eq {level : Nat} {old new : Value} (replaced : Replaced level old new)
    {limit nesting depth : Int} (wide : 0 ≤ nesting) (within : depth ≤ limit + 1)
    (below : 2 * (limit - depth + 1) + nesting < level) :
    explainAt limit nesting depth old = explainAt limit nesting depth new := by
  -- Level, other value and depth are generalised, since all change on the way down.
  induction old using Value.document_induction generalizing level new depth with
  | leaf old unapplied =>
    have shown : renderRaw nesting old = renderRaw nesting new := replaced.renderRaw_eq (by omega)
    by_cases deep : limit < depth
    · rw [explainAt_tooDeep deep, explainAt_tooDeep deep, shown]
    · -- Neither value is put into words, and the levels that are left are more than JSON takes.
      have lower : 2 < level := by omega
      have unapplied' := replaced.application?_eq_none lower unapplied
      rw [replaced.explainAt_unapplied deep (by omega) unapplied,
        replaced.symm.explainAt_unapplied deep (by omega) unapplied', shown]
  | node old operator items applied ih =>
    by_cases deep : limit < depth
    · have shown : renderRaw nesting old = renderRaw nesting new :=
        replaced.renderRaw_eq (by omega)
      rw [explainAt_tooDeep deep, explainAt_tooDeep deep, shown]
    · obtain ⟨before, inner, changed, after, rfl, applied', deeper⟩ :=
        replaced.of_application (by omega) applied
      -- The argument is a node deeper and two levels lower, so the bound is kept.
      have positive := deeper.positive
      have same : explainAt limit nesting (depth + 1) inner =
          explainAt limit nesting (depth + 1) changed :=
        ih inner (by simp) deeper (by omega) (by omega)
      rw [explainAt_application deep applied, explainAt_application deep applied',
        explainItems_replaced same]

/--
The sentence of a document is the same whatever container stands below the levels that it reaches.

The levels it reaches are two to a node that may be put into words, an object and its list, and then
those that JSON shows. The replaced container may be of another kind, and what is in it may be
anything, for the sentence never looks inside. There is a sentence before and after, unless a number
that is shown is too long.
-/
theorem explain_replaced {limit nesting : Int} {level : Nat} {value changed : Value}
    (raw : value.isRaw = true) (nodes : 0 ≤ limit) (levels : 0 ≤ nesting)
    (replaced : Replaced level value changed) (below : 2 * limit + nesting < level) :
    explain limit nesting changed = explain limit nesting value ∧
      ((∃ sentence, explain limit nesting value = .ok sentence) ∨
        explain limit nesting value = .error (.numeral .tooManyDigits)) := by
  have same : explainAt limit nesting 1 value = explainAt limit nesting 1 changed :=
    replaced.explainAt_eq levels (by omega) (by omega)
  -- It remains to see why there is a sentence at all.
  refine ⟨same.symm, ?_⟩
  cases outcome : explain limit nesting value with
  | ok sentence => exact .inl ⟨sentence, rfl⟩
  | error reason =>
    -- Raw data has no operator to name that was never resolved.
    cases reason with
    | uncheckedOperator =>
      exact absurd (value.isResolved_of_raw raw) (namesUnchecked_of_error outcome).not_isResolved
    | numeral reason =>
      cases reason
      exact .inr rfl

/-- A single node over a single level leaves the list of its only argument out of sight. -/
theorem explain_replaced_argument :
    let whole : Value := .object [("or", .list [.object [("in", .list [.text "fee"])]])]
    let changed : Value := .object [("or", .list [.object [("in", .object [])]])]
    ∃ sentence, explain 1 1 whole = .ok sentence ∧ explain 1 1 changed = .ok sentence := by
  intro whole changed
  have replaced : Replaced 4 whole changed :=
    .object "or" [] [] (.list [] [] (.object "in" [] [] (.here rfl rfl)))
  -- The empty object stands at the fourth level, and three are in sight.
  obtain ⟨same, ⟨sentence, spoken⟩ | long⟩ :=
    @explain_replaced 1 1 4 whole changed rfl (by decide) (by decide) replaced (by decide)
  · exact ⟨sentence, spoken, same.trans spoken⟩
  · -- There is no number in the rule, so none is too long.
    exact absurd long (explainAt_writable rfl _)

/-- The bound is exact: a level higher up, the container of the argument shows. -/
example :
    explain 1 1 (.object [("or", .list [.object []])]) = .ok "\x7b\x7d" ∧
      explain 1 1 (.object [("or", .list [.list []])]) = .ok "[]" :=
  ⟨by decide +kernel, by decide +kernel⟩

end DeliveryRules
