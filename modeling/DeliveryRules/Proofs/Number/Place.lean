import DeliveryRules.Number.Binary64
import Mathlib.Algebra.Order.Field.Power
import Mathlib.Algebra.Order.Field.Rat
import Mathlib.Algebra.Order.Ring.Cast
import Mathlib.Order.Compare
import Mathlib.Order.WithBotTop
import Mathlib.Tactic.NormNum

/-! Places on the number line stand for points among the rationals, in the order of the points. -/

namespace DeliveryRules

namespace Place

/-- The point a place stands for, with one point beyond each end of the rationals. -/
def point : Place → WithBotTop ℚ
  | .below => ⊥
  | .at coefficient exponent => WithBotTop.coe (coefficient * 2 ^ exponent)
  | .above => ⊤

/-- Whole numbers are told apart by their order. -/
theorem orderOf_eq_cmp (left right : Int) : orderOf left right = cmp left right := by
  -- Both ask first whether the one is less, and then whether they are equal.
  unfold orderOf cmp cmpUsing
  split_ifs <;> first | rfl | omega

/-- A power of two moved from the exponent into the coefficient leaves the point where it is. -/
theorem widen_mul (coefficient : Int) {low high : Int} (order : low ≤ high) :
    (widen coefficient (high - low).toNat : ℚ) * 2 ^ low = coefficient * 2 ^ high := by
  -- The difference of the exponents is what the coefficient takes over.
  have power : (2 : ℚ) ^ high = 2 ^ (high - low).toNat * 2 ^ low := by
    rw [← zpow_natCast, ← zpow_add₀ (by norm_num : (2 : ℚ) ≠ 0)]
    congr 1
    omega
  rw [widen, Nat.one_shiftLeft, power, ← mul_assoc]
  simp

/-- Coefficients of one exponent are in the order of their points. -/
theorem cmp_mul_power (left right exponent : Int) :
    cmp ((left : ℚ) * 2 ^ exponent) (right * 2 ^ exponent) = cmp left right := by
  -- A positive factor keeps the order.
  have positive : (0 : ℚ) < 2 ^ exponent := zpow_pos (by norm_num) exponent
  rw [cmp_mul_pos_right positive, Int.cast_strictMono.cmp_map_eq]

/-- Places are in the order of their points. -/
theorem order_eq_cmp (left right : Place) : left.order right = cmp left.point right.point := by
  -- The points at the ends are below and above all others.
  cases left with
  | below =>
    cases right with
    | below => exact (cmp_self_eq_eq ⊥).symm
    | «at» b f => exact (WithBot.bot_lt_coe _).cmp_eq_lt.symm
    | above => exact bot_lt_top.cmp_eq_lt.symm
  | above =>
    cases right with
    | below => exact bot_lt_top.cmp_eq_gt.symm
    | «at» b f => exact (WithBot.coe_lt_coe.mpr (WithTop.coe_lt_top _)).cmp_eq_gt.symm
    | above => exact (cmp_self_eq_eq ⊤).symm
  | «at» a e =>
    cases right with
    | below => exact (WithBot.bot_lt_coe _).cmp_eq_gt.symm
    | above => exact (WithBot.coe_lt_coe.mpr (WithTop.coe_lt_top _)).cmp_eq_lt.symm
    | «at» b f =>
      -- With the larger exponent lowered to the smaller, only the coefficients are compared.
      rw [point, point, WithBotTop.coe_strictMono.cmp_map_eq, order]
      by_cases lower : e ≤ f
      · rw [if_pos lower, orderOf_eq_cmp, ← cmp_mul_power _ _ e, widen_mul b lower]
      · rw [if_neg lower, orderOf_eq_cmp, ← cmp_mul_power _ _ f, widen_mul a (by omega)]

end Place

namespace Number

/-- The point a number stands for, which only the undefined number lacks. -/
def point? (number : Number) : Option (WithBotTop ℚ) := number.place?.map Place.point

/-- Numbers are in the order of their points, if both have one. -/
theorem order?_eq_cmp (left right : Number) :
    left.order? right = do return cmp (← left.point?) (← right.point?) := by
  -- Without a place on either side there is nothing to compare.
  unfold order? point?
  cases left.place? with
  | none => rfl
  | some a =>
    cases right.place? with
    | none => rfl
    | some b => exact congrArg some (a.order_eq_cmp b)

/-- Numbers are equal exactly if they stand for the same point. -/
theorem order?_eq_some_eq {left right : Number} :
    left.order? right = some .eq ↔
      ∃ point, left.point? = some point ∧ right.point? = some point := by
  -- Comparing finds equality exactly where the points are the same.
  rw [order?_eq_cmp]
  cases left.point? with
  | none => exact ⟨fun equal => (nomatch equal), fun ⟨_, absent, _⟩ => nomatch absent⟩
  | some a =>
    cases right.point? with
    | none => exact ⟨fun equal => (nomatch equal), fun ⟨_, _, absent⟩ => nomatch absent⟩
    | some b =>
      have same : some (cmp a b) = some .eq ↔ a = b := Option.some_inj.trans (cmp_eq_eq_iff a b)
      refine same.trans ?_
      simp [@eq_comm _ b]

/-- A whole number stands for zero only if it is zero. -/
theorem point?_int_eq_zero {n : Int} : (int n).point? = some (WithBotTop.coe 0) ↔ n = 0 := by
  simp [point?, place?, Place.point, WithBotTop.coe_injective.eq_iff]

/-- A floating-point number stands for zero exactly if it counts as nothing. -/
theorem point?_float_eq_zero {x : Binary64} :
    (float x).point? = some (WithBotTop.coe 0) ↔ x.isZero = true := by
  -- A finite number is its significand times a power, which is never nothing.
  cases x with
  | nan => simp [point?, place?, Binary64.isZero]
  | infinity negative =>
    cases negative <;>
      simp [point?, place?, Binary64.isZero, Place.point, (WithBotTop.coe_ne_bot _).symm,
        (WithBotTop.coe_ne_top _).symm]
  | finite x =>
    have power : (2 : ℚ) ^ x.exponent ≠ 0 := zpow_ne_zero _ (by norm_num)
    by_cases negative : x.negative = true <;>
      simp [point?, place?, Binary64.isZero, Place.point, WithBotTop.coe_injective.eq_iff, negative,
        power]

end Number

end DeliveryRules
