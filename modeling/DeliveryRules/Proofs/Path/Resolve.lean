import DeliveryRules.Path.Resolve
import DeliveryRules.Proofs.Text.Numeral
import DeliveryRules.Proofs.Value.Equality

/-! A path leads to the same data in documents that are the same data. -/

namespace DeliveryRules

/-- The value that the steps of a path lead to, indexes of any length being read. -/
def resolvePath? (document : Value) (path : String) : Option Value :=
  if isWellFormedPath path then followSegments? document (segmentsOf path) else none

/-- Whether a path can be followed: a malformed one is not cut, so its indexes do not matter. -/
def isFollowable (path : String) : Bool := !isWellFormedPath path || hasShortIndexes path

/-- A path that can be followed leads where its steps lead; whether it can depends on it alone. -/
theorem resolvePath_eq (document : Value) (path : String) :
    resolvePath document path =
      NumeralError.guard (isFollowable path) (resolvePath? document path) := by
  -- A path that is not well formed is found nowhere, before its indexes are looked at.
  rw [resolvePath, isFollowable, resolvePath?]
  split_ifs with wellFormed
  · rw [splitPath, NumeralError.map_guard, wellFormed, Bool.not_true, Bool.false_or]
  · rw [Bool.eq_false_iff.mpr wellFormed, Bool.not_false, Bool.true_or, NumeralError.guard_true]

/-- Options are related if both are given or neither is, and what they give is related. -/
theorem rel_of_isSome {α β : Type} {relates : α → β → Prop} {first : Option α} {second : Option β}
    (given : first.isSome = second.isSome)
    (each : ∀ a b, first = some a → second = some b → relates a b) :
    Option.Rel relates first second := by
  -- If one is given so is the other, and then the relation is asked for.
  cases first with
  | none =>
    cases second with
    | none => exact .none
    | some b => cases given
  | some a =>
    cases second with
    | none => cases given
    | some b => exact .some (each a b rfl rfl)

/-- Steps lead on from where the first of them leads to. -/
theorem followSegments?_cons (value : Value) (segment : Segment) (rest : List Segment) :
    followSegments? value (segment :: rest) =
      (segment.follow? value).bind fun next => followSegments? next rest := by
  rw [followSegments?, List.foldlM_cons]
  rfl

namespace Value

variable {value : Value} {point : WithBotTop ℚ} {items : List Value}

/-- A number has no parts. -/
theorem follow?_of_point? (stands : value.point? = some point) (segment : Segment) :
    segment.follow? value = none := by
  -- Only numbers stand for a point.
  cases value with
  | int n => cases segment <;> rfl
  | float x => cases segment <;> rfl
  | _ => cases stands

/-- A sequence has no members. -/
theorem member?_of_items? (listed : value.items? = some items) (key : String) :
    value.member? key = none := by
  rcases items?_eq_some.mp listed with rfl | rfl <;> rfl

/-- The elements of a sequence are its items. -/
theorem element?_of_items? (listed : value.items? = some items) (n : Nat) :
    value.element? n = items[n]? := by
  rcases items?_eq_some.mp listed with rfl | rfl <;> rfl

end Value

namespace Alike

variable {first second : Value}

/-- One step leads to values that are alike, or nowhere on both sides. -/
theorem follow? (alike : Alike first second) (segment : Segment) :
    Option.Rel Alike (segment.follow? first) (segment.follow? second) := by
  -- Values that are alike have the same kinds of parts, which are alike in turn.
  cases alike with
  | number here there =>
    rw [Value.follow?_of_point? here, Value.follow?_of_point? there]
    exact .none
  | @sequence _ _ items others listed listed' length each =>
    cases segment with
    | key name =>
      simp only [Segment.follow?, Value.member?_of_items? listed, Value.member?_of_items? listed']
      exact .none
    | index n =>
      simp only [Segment.follow?, Value.element?_of_items? listed, Value.element?_of_items? listed']
      -- An index is in range of both sequences or of neither.
      have given : items[n]?.isSome = others[n]?.isSome := by grind
      exact rel_of_isSome given (each n)
    | wildcard => exact .none
  | object distinct distinct' keys each =>
    cases segment with
    | key name => exact rel_of_isSome (keys name) (each name)
    | index n => exact .none
    | wildcard => exact .none
  | bytes octets =>
    -- What is found in a byte string is a number, and the same one on both sides.
    cases segment with
    | key name => exact .none
    | index n =>
      show Option.Rel Alike (octets[n]?.map _) (octets[n]?.map _)
      cases octets[n]? with
      | none => exact .none
      | some octet => exact .some (.number rfl rfl)
    | wildcard => exact .none
  | _ => cases segment <;> exact .none

/-- Steps lead to values that are alike, or nowhere on both sides. -/
theorem followSegments? (alike : Alike first second) (segments : List Segment) :
    Option.Rel Alike (DeliveryRules.followSegments? first segments)
      (DeliveryRules.followSegments? second segments) := by
  -- Both values are generalised, since each step leads to others.
  induction segments generalizing first second with
  | nil => exact .some alike
  | cons segment rest ih =>
    have step := alike.follow? segment
    rw [DeliveryRules.followSegments?, DeliveryRules.followSegments?, List.foldlM_cons,
      List.foldlM_cons]
    -- Either both first steps lead on, to values that are alike, or neither does.
    generalize segment.follow? first = here, segment.follow? second = there at step
    cases step with
    | none => exact .none
    | some next => exact ih next

/-- A path leads to values that are alike, or nowhere in both documents. -/
theorem resolvePath? (alike : Alike first second) (path : String) :
    Option.Rel Alike (DeliveryRules.resolvePath? first path)
      (DeliveryRules.resolvePath? second path) := by
  -- A path leads somewhere only if it is well formed and can be followed.
  unfold DeliveryRules.resolvePath?
  split_ifs with wellFormed
  · exact alike.followSegments? _
  · exact .none

end Alike

end DeliveryRules
