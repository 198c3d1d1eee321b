import DeliveryRules.Number.Binary64
import Mathlib.Algebra.Order.Field.Basic
import Mathlib.Algebra.Order.Field.Power
import Mathlib.Algebra.Order.Field.Rat
import Mathlib.Tactic.Linarith
import Mathlib.Tactic.Positivity
import Mathlib.Tactic.Ring

/-! The binary number made from a ratio is no further from it than half of its last place. -/

namespace DeliveryRules

/-- A scaled ratio keeps a denominator. -/
theorem scaleRatio_pos {denominator : Nat} (positive : 0 < denominator) (numerator : Nat)
    (power : Int) : 0 < (scaleRatio numerator denominator power).2 := by
  -- A negative power widens the denominator, and another one leaves it.
  cases power with
  | ofNat up => exact positive
  | negSucc down =>
    simp only [scaleRatio, Nat.shiftLeft_eq]
    positivity

/-- A scaled ratio is the ratio times the power of two, exactly. -/
theorem scaleRatio_value (numerator denominator : Nat) (power : Int) :
    ((scaleRatio numerator denominator power).1 : ℚ) / (scaleRatio numerator denominator power).2 =
      numerator / denominator * 2 ^ power := by
  -- A power goes into the numerator or, if it is negative, into the denominator.
  cases power with
  | ofNat up =>
    simp only [scaleRatio, Nat.shiftLeft_eq, Nat.cast_mul, Nat.cast_pow, Nat.cast_ofNat,
      Int.ofNat_eq_natCast, zpow_natCast]
    ring
  | negSucc down =>
    simp only [scaleRatio, Nat.shiftLeft_eq, Nat.cast_mul, Nat.cast_pow, Nat.cast_ofNat,
      zpow_negSucc]
    rw [← div_eq_mul_inv, div_div]

/-- A rounded quotient misses the quotient by at most half of a unit, below it and above it. -/
theorem roundQuotient_bounds (numerator : Nat) {denominator : Nat} (positive : 0 < denominator) :
    2 * numerator ≤ 2 * (denominator * roundQuotient numerator denominator) + denominator ∧
      2 * (denominator * roundQuotient numerator denominator) ≤ 2 * numerator + denominator := by
  -- The remainder is compared with the half of the denominator.
  have split : denominator * (numerator / denominator) + numerator % denominator = numerator :=
    Nat.div_add_mod numerator denominator
  have short : numerator % denominator < denominator := Nat.mod_lt numerator positive
  unfold roundQuotient
  dsimp only
  split_ifs with less more
  -- Below the middle the quotient is kept, and above it the next one is taken.
  · omega
  · rw [Nat.mul_succ]
    omega
  -- In the middle both are equally far away, so the even one may be either.
  · rcases Nat.mod_two_eq_zero_or_one (numerator / denominator) with even | odd
    · rw [even, Nat.add_zero]
      omega
    · rw [odd, Nat.mul_succ]
      omega

/-- A rounded quotient is no further from the quotient than a half. -/
theorem roundQuotient_near (numerator : Nat) {denominator : Nat} (positive : 0 < denominator) :
    |(roundQuotient numerator denominator : ℚ) - numerator / denominator| ≤ 1 / 2 := by
  -- The bounds are taken over to fractions, where the quotient is exact.
  obtain ⟨least, most⟩ := roundQuotient_bounds numerator positive
  have positive : (0 : ℚ) < denominator := by exact_mod_cast positive
  have least : (2 * numerator : ℚ) ≤
      2 * (denominator * roundQuotient numerator denominator) + denominator := by
    exact_mod_cast least
  have most : (2 * (denominator * roundQuotient numerator denominator) : ℚ) ≤
      2 * numerator + denominator := by
    exact_mod_cast most
  have exact : (numerator / denominator : ℚ) * denominator = numerator :=
    div_mul_cancel₀ _ positive.ne'
  rw [abs_le]
  constructor <;> nlinarith

/-- Only one whole number is nearer to a ratio than a half. -/
theorem roundQuotient_eq {numerator denominator whole : Nat} (positive : 0 < denominator)
    (near : |(numerator / denominator : ℚ) - whole| < 1 / 2) :
    roundQuotient numerator denominator = whole := by
  -- Both the rounded quotient and the whole number are near to the ratio, and so to each other.
  have rounded := roundQuotient_near numerator positive
  have apart : |(roundQuotient numerator denominator : ℚ) - whole| < 1 := by
    calc |(roundQuotient numerator denominator : ℚ) - whole|
        ≤ |(roundQuotient numerator denominator : ℚ) - numerator / denominator| +
            |(numerator / denominator : ℚ) - whole| := abs_sub_le _ _ _
      _ < 1 / 2 + 1 / 2 := add_lt_add_of_le_of_lt rounded near
      _ = 1 := by norm_num
  -- Whole numbers that are less than one apart are the same.
  have close : |(roundQuotient numerator denominator : ℤ) - whole| < 1 := by exact_mod_cast apart
  have same := Int.abs_lt_one_iff.mp close
  omega

/-- A quotient up to a whole number is rounded to no more than that. -/
theorem roundQuotient_le {numerator denominator whole : Nat} (positive : 0 < denominator)
    (bounded : (numerator / denominator : ℚ) ≤ whole) :
    roundQuotient numerator denominator ≤ whole := by
  -- The rounded quotient is less than one above a bound that is whole.
  have near := (abs_le.mp (roundQuotient_near numerator positive)).2
  have short : (roundQuotient numerator denominator : ℚ) < whole + 1 := by linarith
  exact Nat.lt_succ_iff.mp (by exact_mod_cast short)

/-- A quotient from a whole number on is rounded to no less than that. -/
theorem le_roundQuotient {numerator denominator whole : Nat} (positive : 0 < denominator)
    (reached : (whole : ℚ) ≤ numerator / denominator) :
    whole ≤ roundQuotient numerator denominator := by
  -- The rounded quotient is less than one below a bound that is whole.
  have near := (abs_le.mp (roundQuotient_near numerator positive)).1
  have short : (whole : ℚ) < roundQuotient numerator denominator + 1 := by linarith
  exact Nat.lt_succ_iff.mp (by exact_mod_cast short)

/-- Comparing a scaled ratio settles on which side of a power of two the ratio lies. -/
theorem belowPower_iff (numerator : Nat) {denominator : Nat} (positive : 0 < denominator)
    (power : Int) :
    belowPower numerator denominator power = true ↔ (numerator / denominator : ℚ) < 2 ^ power := by
  -- The ratio is scaled by the power, after which it is compared with one.
  have scaled := scaleRatio_value numerator denominator (-power)
  have width : (0 : ℚ) < (scaleRatio numerator denominator (-power)).2 := by
    exact_mod_cast scaleRatio_pos positive numerator (-power)
  have unit : (0 : ℚ) < 2 ^ power := zpow_pos (by norm_num) power
  have below : belowPower numerator denominator power = true ↔
      ((scaleRatio numerator denominator (-power)).1 : ℚ) <
        (scaleRatio numerator denominator (-power)).2 := by
    simp [belowPower]
  rw [below, ← div_lt_one width, scaled, zpow_neg, ← div_eq_mul_inv, div_lt_one unit]

namespace Binary64

/-- The bit lengths of its parts place a ratio between two powers of two. -/
theorem ratio_between_powers {numerator denominator : Nat} (filled : 0 < numerator)
    (positive : 0 < denominator) :
    (2 : ℚ) ^ ((numerator.log2 : Int) - denominator.log2 - 1) ≤ numerator / denominator ∧
      (numerator / denominator : ℚ) < 2 ^ ((numerator.log2 : Int) - denominator.log2 + 1) := by
  have two : (2 : ℚ) ≠ 0 := by norm_num
  have width : (0 : ℚ) < denominator := by exact_mod_cast positive
  -- Each part is at least its highest bit, and less than the next one.
  have above : (2 : ℚ) ^ numerator.log2 ≤ numerator ∧ (2 : ℚ) ^ denominator.log2 ≤ denominator :=
    ⟨by exact_mod_cast Nat.log2_self_le filled.ne', by exact_mod_cast Nat.log2_self_le positive.ne'⟩
  have below : (numerator : ℚ) < 2 ^ (numerator.log2 + 1) ∧
      (denominator : ℚ) < 2 ^ (denominator.log2 + 1) :=
    ⟨by exact_mod_cast Nat.lt_log2_self, by exact_mod_cast Nat.lt_log2_self⟩
  constructor
  · have lowest : (2 : ℚ) ^ ((numerator.log2 : Int) - denominator.log2 - 1) =
        2 ^ numerator.log2 / 2 ^ (denominator.log2 + 1) := by
      rw [zpow_sub₀ two, zpow_sub₀ two, zpow_natCast, zpow_natCast, zpow_one, div_div, pow_succ]
    rw [lowest]
    exact div_le_div₀ (by positivity) above.1 width below.2.le
  · have highest : (2 : ℚ) ^ ((numerator.log2 : Int) - denominator.log2 + 1) =
        2 ^ (numerator.log2 + 1) / 2 ^ denominator.log2 := by
      rw [zpow_add₀ two, zpow_sub₀ two, zpow_natCast, zpow_natCast, zpow_one, div_mul_eq_mul_div,
        pow_succ]
    rw [highest]
    exact div_lt_div₀ below.1 above.2 (by positivity) (by positivity)

/--
The exponent of a ratio leaves room for fifty-three bits, and is as small as that allows.

Only the least exponent of all may be larger than the ratio asks for.
-/
theorem unitExponent_spec {numerator denominator : Nat} (filled : 0 < numerator)
    (positive : 0 < denominator) :
    -1074 ≤ unitExponent numerator denominator ∧
      (numerator / denominator : ℚ) < 2 ^ (unitExponent numerator denominator + 53) ∧
      (unitExponent numerator denominator = -1074 ∨
        (2 : ℚ) ^ (unitExponent numerator denominator + 52) ≤ numerator / denominator) := by
  obtain ⟨low, high⟩ := ratio_between_powers filled positive
  let guess : Int := Int.ofNat numerator.log2 - Int.ofNat denominator.log2 - 52
  let tight := if belowPower numerator denominator (guess + 52) then guess - 1 else guess
  have chosen : unitExponent numerator denominator = if tight < -1074 then -1074 else tight := rfl
  -- One comparison decides which of two neighbouring exponents is the one in question.
  have between : (2 : ℚ) ^ (tight + 52) ≤ numerator / denominator ∧
      (numerator / denominator : ℚ) < 2 ^ (tight + 53) := by
    by_cases less : belowPower numerator denominator (guess + 52) = true
    · have lower : tight = guess - 1 := if_pos less
      have low_exponent : tight + 52 = (numerator.log2 : Int) - denominator.log2 - 1 := by
        simp only [lower, guess, Int.ofNat_eq_natCast]
        omega
      have high_exponent : tight + 53 = guess + 52 := by omega
      rw [low_exponent, high_exponent]
      exact ⟨low, (belowPower_iff numerator positive _).mp less⟩
    · have same : tight = guess := if_neg less
      have high_exponent : tight + 53 = (numerator.log2 : Int) - denominator.log2 + 1 := by
        simp only [same, guess, Int.ofNat_eq_natCast]
        omega
      have reached : ¬(numerator / denominator : ℚ) < 2 ^ (guess + 52) :=
        fun below => less ((belowPower_iff numerator positive _).mpr below)
      rw [high_exponent, same]
      exact ⟨not_lt.mp reached, high⟩
  rw [chosen]
  -- Below the least exponent that exponent is taken instead, which leaves even more room.
  split_ifs with deep
  · refine ⟨le_rfl, between.2.trans ?_, .inl rfl⟩
    exact zpow_lt_zpow_right₀ (by norm_num) (by omega)
  · exact ⟨by omega, between.2, .inr between.1⟩

namespace Finite

/-- The magnitude of a finite number. -/
def magnitude (x : Finite) : ℚ := x.significand * 2 ^ x.exponent

/-- The ratio of a finite number is its magnitude. -/
theorem ratio_value (x : Finite) : (x.ratio.1 / x.ratio.2 : ℚ) = x.magnitude := by
  rw [ratio, scaleRatio_value, Nat.cast_one, div_one, magnitude]

/-- The ratio of a finite number has a denominator. -/
theorem ratio_pos (x : Finite) : 0 < x.ratio.2 := scaleRatio_pos one_pos _ _

end Finite

/-- Parts in canonical form are packed as they are. -/
theorem pack_eq_finite (negative : Bool) {significand : Nat} {exponent : Int}
    (room : significand < 2 ^ 53) (deep : -1074 ≤ exponent) (high : exponent ≤ 971)
    (full : 2 ^ 52 ≤ significand ∨ exponent = -1074) :
    ∃ x : Finite, pack negative significand exponent = .finite x ∧ x.negative = negative ∧
      x.magnitude = significand * 2 ^ exponent := by
  -- The four conditions are what the canonical form asks for.
  have fits : isCanonical significand exponent = true := by
    simp only [isCanonical, Nat.shiftLeft_eq, Bool.and_eq_true, Bool.or_eq_true, beq_iff_eq,
      decide_eq_true_eq, one_mul]
    exact ⟨⟨⟨room, deep⟩, high⟩, full⟩
  exact ⟨⟨negative, significand, exponent, fits⟩, by simp [pack, fits], rfl, rfl⟩

/-- A positive ratio counted in the units of its exponent. -/
theorem unitRatio_bounds {numerator denominator : Nat} (filled : 0 < numerator)
    (positive : 0 < denominator) :
    let scaled := scaleRatio numerator denominator (-unitExponent numerator denominator)
    (scaled.1 / scaled.2 : ℚ) * 2 ^ unitExponent numerator denominator = numerator / denominator ∧
      (scaled.1 / scaled.2 : ℚ) < 2 ^ 53 ∧
      (unitExponent numerator denominator = -1074 ∨ (2 ^ 52 : ℚ) ≤ scaled.1 / scaled.2) := by
  intro scaled
  obtain ⟨_, room, full⟩ := unitExponent_spec filled positive
  have unit : (0 : ℚ) < 2 ^ unitExponent numerator denominator := zpow_pos (by norm_num) _
  have two : (2 : ℚ) ≠ 0 := by norm_num
  -- To count in units is to divide by the unit, which is positive.
  have counted : (scaled.1 / scaled.2 : ℚ) =
      numerator / denominator / 2 ^ unitExponent numerator denominator := by
    rw [scaleRatio_value, zpow_neg, ← div_eq_mul_inv]
  rw [counted]
  refine ⟨div_mul_cancel₀ _ unit.ne', ?_, full.imp_right fun reached => ?_⟩
  · rw [div_lt_iff₀ unit, mul_comm]
    simpa [zpow_add₀ two] using room
  · rw [le_div_iff₀ unit, mul_comm]
    simpa [zpow_add₀ two] using reached

/-- The number nearest to a ratio misses it by at most half of its unit, unless it is too large. -/
theorem ofRatio_near (negative : Bool) {numerator denominator : Nat} (filled : 0 < numerator)
    (positive : 0 < denominator) (bounded : unitExponent numerator denominator ≤ 970) :
    ∃ x : Finite, ofRatio negative numerator denominator = .finite x ∧ x.negative = negative ∧
      |x.magnitude - numerator / denominator| ≤
        2 ^ (unitExponent numerator denominator - 1) := by
  have deep : -1074 ≤ unitExponent numerator denominator := (unitExponent_spec filled positive).1
  obtain ⟨counted, room, full⟩ := unitRatio_bounds filled positive
  generalize chosen : unitExponent numerator denominator = exponent at *
  let scaled := scaleRatio numerator denominator (-exponent)
  let significand := roundQuotient scaled.1 scaled.2
  have width : 0 < scaled.2 := scaleRatio_pos positive numerator (-exponent)
  have unit : (0 : ℚ) < 2 ^ exponent := zpow_pos (by norm_num) exponent
  have two : (2 : ℚ) ≠ 0 := by norm_num
  -- The significand is the ratio counted in units, rounded once.
  have near : |(significand : ℚ) * 2 ^ exponent - numerator / denominator| ≤
      2 ^ (exponent - 1) := by
    rw [← counted, ← sub_mul, abs_mul, abs_of_pos unit, zpow_sub_one₀ two, mul_comm (2 ^ exponent)]
    refine mul_le_mul_of_nonneg_right ?_ unit.le
    simpa using roundQuotient_near scaled.1 width
  have most : significand ≤ 2 ^ 53 := by
    refine roundQuotient_le width ?_
    exact_mod_cast room.le
  have least : 2 ^ 52 ≤ significand ∨ exponent = -1074 := by
    refine full.symm.imp_left fun reached => le_roundQuotient width ?_
    exact_mod_cast reached
  -- Rounding may carry into a new bit, which is the only case apart.
  have made : ofRatio negative numerator denominator =
      if significand = 2 ^ 53 then pack negative (2 ^ 52) (exponent + 1)
      else pack negative significand exponent := by
    simp only [ofRatio, chosen, filled.ne', if_false]
    rfl
  rw [made]
  split_ifs with carried
  -- A carry halves the significand and doubles the unit, which is the same number.
  · have room : 2 ^ 52 < 2 ^ 53 := by norm_num
    have high : exponent + 1 ≤ 971 := by omega
    obtain ⟨x, packed, sign, value⟩ := pack_eq_finite negative room (by omega) high (.inl le_rfl)
    refine ⟨x, packed, sign, ?_⟩
    have same : x.magnitude = significand * 2 ^ exponent := by
      rw [value, carried, zpow_add_one₀ two]
      push_cast
      ring
    rw [same]
    exact near
  · have room : significand < 2 ^ 53 := by omega
    have high : exponent ≤ 971 := by omega
    obtain ⟨x, packed, sign, value⟩ := pack_eq_finite negative room deep high least
    exact ⟨x, packed, sign, value ▸ near⟩

end Binary64

end DeliveryRules
