import DeliveryRules.Proofs.Value.PartialEquivalence
import Mathlib.Order.Basic

/-! The six comparisons of values are those of the points of the number line they stand for. -/

namespace DeliveryRules

/-- How a comparison relates two points of the number line. -/
def Comparator.Relates : Comparator → WithBotTop ℚ → WithBotTop ℚ → Prop
  | .greater, left, right => right < left
  | .less, left, right => left < right
  | .atLeast, left, right => right ≤ left
  | .atMost, left, right => left ≤ right
  | .equal, left, right => left = right
  | .unequal, left, right => left ≠ right

section Points

variable {left right : Value}

/-- A value has no point if it is no number, or the undefined one. -/
theorem Value.point?_eq_none_iff {value : Value} :
    value.point? = none ↔ value.number? = none ∨ value.isUndefined = true := by
  cases value with
  | float x =>
    -- Of the floats only one has no place: the infinite ones stand at the ends of the line.
    cases x with
    | infinity negative => cases negative <;> simp [point?, number?, isUndefined, Number.point?,
        Number.place?]
    | _ => simp [point?, number?, isUndefined, Number.point?, Number.place?]
  | _ => simp [point?, number?, isUndefined, Number.point?, Number.place?]

/-- A number has a point unless it is the undefined one. -/
theorem Value.exists_point {value : Value} {number : Number}
    (numbered : value.number? = some number) (defined : value.isUndefined = false) :
    ∃ point, value.point? = some point := by
  refine Option.ne_none_iff_exists'.mp fun absent => ?_
  rcases point?_eq_none_iff.mp absent with unnumbered | undefined
  · cases numbered.symm.trans unnumbered
  · cases defined.symm.trans undefined

/-- Numbers are equal only to numbers. -/
theorem Value.number?_eq_none_of_equal (unnumbered : left.number? = none)
    (equal : left.equal right = true) : right.number? = none := by
  cases left <;> cases right <;>
    simp_all [number?, Value.equal, Value.same, sameNumeral, numeral?]

/-- Values that are equal stand for the same point, or neither stands for one. -/
theorem Value.point?_of_equal (equal : left.equal right = true) : left.point? = right.point? := by
  -- Numbers are equal by their points, and what is no number is equal to none.
  cases number : left.number? with
  | some a => exact (alike_of_equal_number number equal).point?_eq
  | none => rw [point?, point?, number, number?_eq_none_of_equal number equal]

namespace Comparator

variable {comparator : Comparator} {a b : WithBotTop ℚ}

/-- A comparison of values that have points holds exactly if it relates the points. -/
theorem holds_iff_relates (here : left.point? = some a) (there : right.point? = some b) :
    comparator.holds left right = true ↔ comparator.Relates a b := by
  -- The numbers are in the order of their points.
  have order : (do (← left.number?).order? (← right.number?)) = some (cmp a b) := by
    rw [Value.order_eq_cmp, here, there]
    rfl
  -- Equality is that of the points, in both directions.
  have equal : left.equal right = true ↔ a = b := by
    constructor
    · intro equal
      exact Option.some_inj.mp (here.symm.trans ((Value.point?_of_equal equal).trans there))
    · rintro rfl
      exact (Alike.number here there).equal
  have ordered (result : Ordering) : (some (cmp a b) == some result) = true ↔ cmp a b = result :=
    beq_iff_eq.trans Option.some_inj
  simp only [holds]
  rw [order]
  -- Each comparison asks for one of the three orders, or for two of them.
  cases comparator with
  | greater => rw [ordered, cmp_eq_gt_iff, Relates]
  | less => rw [ordered, cmp_eq_lt_iff, Relates]
  | atLeast =>
    rw [Bool.or_eq_true, ordered, ordered, cmp_eq_gt_iff, cmp_eq_eq_iff, Relates,
      le_iff_lt_or_eq, @eq_comm _ b]
  | atMost =>
    rw [Bool.or_eq_true, ordered, ordered, cmp_eq_lt_iff, cmp_eq_eq_iff, Relates,
      le_iff_lt_or_eq]
  | equal => exact equal
  | unequal => rw [Bool.not_eq_true', ← Bool.not_eq_true, equal, Relates]

/-- An order does not hold of values of which one has no point. -/
theorem holds_eq_false (ordering : comparator.isOrdering = true)
    (absent : left.point? = none ∨ right.point? = none) : comparator.holds left right = false := by
  have unordered : (do (← left.number?).order? (← right.number?)) = none := by
    rw [Value.order_eq_cmp]
    rcases absent with here | there
    · rw [here]
      rfl
    · rw [there]
      cases left.point? <;> rfl
  -- The four orders ask for an order that there is not.
  cases comparator with
  | equal | unequal => cases ordering
  | _ =>
    simp only [holds, unordered]
    rfl

/-- An order holds exactly of values that have points which it relates. -/
theorem holds_iff_of_isOrdering (ordering : comparator.isOrdering = true) :
    comparator.holds left right = true ↔
      ∃ a b, left.point? = some a ∧ right.point? = some b ∧ comparator.Relates a b := by
  constructor
  · -- Where an order holds, both values must have points.
    intro held
    cases here : left.point? with
    | none => simp [holds_eq_false ordering (.inl here)] at held
    | some a =>
      cases there : right.point? with
      | none => simp [holds_eq_false ordering (.inr there)] at held
      | some b => exact ⟨a, b, rfl, rfl, (holds_iff_relates here there).mp held⟩
  · rintro ⟨a, b, here, there, related⟩
    exact (holds_iff_relates here there).mpr related

/-- An order sees no more of two values than their points. -/
theorem holds_eq_of_points {left' right' : Value} (ordering : comparator.isOrdering = true)
    (here : left.point? = left'.point?) (there : right.point? = right'.point?) :
    comparator.holds left right = comparator.holds left' right' := by
  rw [Bool.eq_iff_iff, holds_iff_of_isOrdering ordering, holds_iff_of_isOrdering ordering, here,
    there]

/-- An order holds of two values exactly if its converse holds of them the other way round. -/
theorem holds_eq_of_converse {converse : Comparator} (ordering : comparator.isOrdering = true)
    (ordering' : converse.isOrdering = true)
    (turned : ∀ a b, comparator.Relates a b ↔ converse.Relates b a) :
    comparator.holds left right = converse.holds right left := by
  rw [Bool.eq_iff_iff, holds_iff_of_isOrdering ordering, holds_iff_of_isOrdering ordering']
  constructor
  · rintro ⟨a, b, here, there, related⟩
    exact ⟨b, a, there, here, (turned a b).mp related⟩
  · rintro ⟨b, a, there, here, related⟩
    exact ⟨a, b, here, there, (turned a b).mpr related⟩

/-- Just one of less, equal and greater holds of values that have points. -/
theorem existsUnique_holds (here : left.point? = some a) (there : right.point? = some b) :
    ∃! comparator, comparator ∈ [Comparator.less, .equal, .greater] ∧
      comparator.holds left right = true := by
  simp only [holds_iff_relates here there]
  -- The order of the points decides which one holds, and excludes the two others.
  rcases lt_trichotomy a b with below | same | above
  · refine ⟨.less, ⟨by simp, below⟩, ?_⟩
    rintro comparator ⟨listed, related⟩
    rcases List.mem_cons.mp listed with rfl | listed
    · rfl
    · rcases List.mem_pair.mp listed with rfl | rfl
      · exact absurd related below.ne
      · exact absurd related below.not_gt
  · refine ⟨.equal, ⟨by simp, same⟩, ?_⟩
    rintro comparator ⟨listed, related⟩
    rcases List.mem_cons.mp listed with rfl | listed
    · exact absurd same (ne_of_lt related)
    · rcases List.mem_pair.mp listed with rfl | rfl
      · rfl
      · exact absurd same (ne_of_gt related)
  · refine ⟨.greater, ⟨by simp, above⟩, ?_⟩
    rintro comparator ⟨listed, related⟩
    rcases List.mem_cons.mp listed with rfl | listed
    · exact absurd related above.not_gt
    · rcases List.mem_pair.mp listed with rfl | rfl
      · exact absurd related above.ne'
      · rfl

end Comparator

end Points

/--
The six comparisons are coherent on all values, however they are typed.

Orders hold of defined numbers only, and there they are the order of the exact points that the
numbers stand for, as equality is that of the points. Just one of less, equal and greater holds.
-/
theorem comparisons_coherent (first second third : Value) :
    Comparator.unequal.holds first second = !Comparator.equal.holds first second ∧
      Comparator.less.holds first second = Comparator.greater.holds second first ∧
      Comparator.atMost.holds first second = Comparator.atLeast.holds second first ∧
      (first.number? = none ∨ second.number? = none ∨ first.isUndefined = true ∨
          second.isUndefined = true →
        ∀ comparator : Comparator, comparator.isOrdering = true →
          comparator.holds first second = false) ∧
      (∀ m n, first.number? = some m → second.number? = some n → first.isUndefined = false →
        second.isUndefined = false →
        (∃! comparator, comparator ∈ [Comparator.less, .equal, .greater] ∧
            comparator.holds first second = true) ∧
          Comparator.atMost.holds first second =
            (Comparator.less.holds first second || Comparator.equal.holds first second) ∧
          Comparator.atLeast.holds first second =
            (Comparator.greater.holds first second || Comparator.equal.holds first second) ∧
          ∃ a b, m.point? = some a ∧ n.point? = some b ∧
            ∀ comparator : Comparator,
              comparator.holds first second = true ↔ comparator.Relates a b) ∧
      (Comparator.less.holds first second = true → Comparator.less.holds second third = true →
        Comparator.less.holds first third = true) ∧
      (first.equal second = true → ∀ comparator : Comparator, comparator.isOrdering = true →
        comparator.holds first third = comparator.holds second third ∧
          comparator.holds third first = comparator.holds third second) := by
  refine ⟨rfl, Comparator.holds_eq_of_converse rfl rfl fun _ _ => Iff.rfl,
    Comparator.holds_eq_of_converse rfl rfl fun _ _ => Iff.rfl, ?_, ?_, ?_, ?_⟩
  · -- Without a number on either side there is no point, and so no order.
    intro absent comparator ordering
    refine Comparator.holds_eq_false ordering ?_
    rw [Value.point?_eq_none_iff, Value.point?_eq_none_iff]
    tauto
  · -- Defined numbers have points, of which all the rest is said.
    intro m n numbered numbered' defined defined'
    obtain ⟨a, here⟩ := Value.exists_point numbered defined
    obtain ⟨b, there⟩ := Value.exists_point numbered' defined'
    have point : m.point? = some a := by simpa [Value.point?, numbered] using here
    have point' : n.point? = some b := by simpa [Value.point?, numbered'] using there
    have relates (comparator : Comparator) :
        comparator.holds first second = true ↔ comparator.Relates a b :=
      Comparator.holds_iff_relates here there
    refine ⟨Comparator.existsUnique_holds here there, ?_, ?_, a, b, point, point', relates⟩
    · rw [Bool.eq_iff_iff, Bool.or_eq_true, relates, relates, relates]
      exact le_iff_lt_or_eq
    · rw [Bool.eq_iff_iff, Bool.or_eq_true, relates, relates, relates]
      exact le_iff_lt_or_eq.trans (or_congr_right eq_comm)
  · -- The points of the second value are one point, so the points are in a chain.
    intro below below'
    rw [Comparator.holds_iff_of_isOrdering rfl] at below below' ⊢
    obtain ⟨a, b, here, there, lower⟩ := below
    obtain ⟨b', c, there', beyond, higher⟩ := below'
    cases there.symm.trans there'
    exact ⟨a, c, here, beyond, lt_trans lower higher⟩
  · -- Equal values have one point, and an order sees nothing else.
    intro equal comparator ordering
    have same := Value.point?_of_equal equal
    exact ⟨Comparator.holds_eq_of_points ordering same rfl,
      Comparator.holds_eq_of_points ordering rfl same⟩

/-- The least natural number that no float stands for is more than the float it rounds to. -/
example : Comparator.greater.holds (.int (2 ^ 53 + 1)) (.float (.ofInt (2 ^ 53 + 1))) = true := by
  decide

end DeliveryRules
