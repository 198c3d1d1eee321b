import DeliveryRules.Proofs.Number.Rounding
import DeliveryRules.Proofs.Outcome
import DeliveryRules.Rule.Amount

/-! Amounts are shown to the exact cent, although they are divided in binary. -/

namespace DeliveryRules

/-- Fewer than a hundred cents are written with two digits. -/
theorem cents_eq {cents : Nat} (few : cents < 100) :
    (if (digitsOf cents).length < 2 then '0' :: digitsOf cents else digitsOf cents) =
      [(cents / 10).digitChar, (cents % 10).digitChar] := by
  by_cases single : cents < 10
  · have tens : cents / 10 = 0 := by omega
    have ones : cents % 10 = cents := Nat.mod_eq_of_lt single
    rw [digitsOf, Nat.toDigits_of_lt_base single, tens, ones]
    rfl
  -- From ten on the quotient is a digit itself, and stands in front of the remainder.
  · have tens : cents / 10 < 10 := by omega
    rw [digitsOf, Nat.toDigits_of_base_le (by decide) (by omega), Nat.toDigits_of_lt_base tens]
    rfl

/-- A count of hundredths is written with its sign, its whole part and two more digits. -/
theorem hundredths_eq (negative : Bool) (count : Nat) :
    hundredths negative count =
      (if negative then "-" else "") ++ numeral (count / 100) ++ "." ++
        String.ofList [(count % 100 / 10).digitChar, (count % 10).digitChar] := by
  -- The cents are what is left of whole dollars, so they are fewer than a hundred.
  have last : count % 100 % 10 = count % 10 := by omega
  rw [hundredths, cents_eq (Nat.mod_lt count (by decide)), last]

namespace Binary64

namespace Finite

/-- A number within half a hundredth of a count of hundredths is written as that count. -/
theorem fixed_eq {x : Finite} {count : Nat} (near : |x.magnitude - count / 100| < 1 / 200) :
    fixed (.finite x) = hundredths x.negative count := by
  -- The ratio is scaled to hundredths, as it is before it is rounded.
  have counted : (((x.ratio.1 * 100 : Nat) : ℚ) / x.ratio.2) = x.magnitude * 100 := by
    rw [Nat.cast_mul, mul_div_right_comm, ratio_value, Nat.cast_ofNat]
  -- Counted in hundredths, the distance is less than a half.
  have close : |((x.ratio.1 * 100 : Nat) : ℚ) / x.ratio.2 - count| < 1 / 2 := by
    have scaled : x.magnitude * 100 - count = (x.magnitude - count / 100) * 100 := by ring
    rw [counted, scaled, abs_mul, abs_of_pos (by norm_num : (0 : ℚ) < 100)]
    linarith
  exact congrArg (hundredths x.negative) (roundQuotient_eq x.ratio_pos close)

end Finite

/-- Up to this many hundredths the last place of their binary number is fine enough. -/
theorem unitExponent_hundredths {count : Nat} (filled : 0 < count)
    (bounded : count < 100 * 2 ^ 46) : unitExponent count 100 ≤ -7 := by
  -- Within the bound the number stays below a power of two.
  have small : (count / (100 : Nat) : ℚ) < 2 ^ (46 : ℤ) := by
    rw [div_lt_iff₀ (by norm_num)]
    norm_num
    exact_mod_cast bounded
  -- Either the exponent is the least one, or its power is reached by the number.
  obtain ⟨_, _, least | reached⟩ := unitExponent_spec filled (by decide : 0 < 100)
  · omega
  · have exponents : unitExponent count 100 + 52 < 46 :=
      (zpow_lt_zpow_iff_right₀ (by norm_num : (1 : ℚ) < 2)).mp (reached.trans_lt small)
    omega

/-- A whole number of hundredths is written as it is, after it went through binary. -/
theorem fixed_ofRatio (negative : Bool) {count : Nat} (bounded : count < 100 * 2 ^ 46) :
    ∃ x : Finite, ofRatio negative count 100 = .finite x ∧
      fixed (.finite x) = hundredths negative count := by
  rcases Nat.eq_zero_or_pos count with rfl | filled
  -- Nothing is divided at zero.
  · exact ⟨_, rfl, by cases negative <;> rfl⟩
  have fine := unitExponent_hundredths filled bounded
  obtain ⟨x, made, sign, near⟩ := ofRatio_near negative filled (by decide : 0 < 100) (by omega)
  refine ⟨x, made, ?_⟩
  -- Half of the last place is at most a 256th, which is less than half of a hundredth.
  have close : |x.magnitude - count / 100| < 1 / 200 := by
    calc |x.magnitude - count / 100| ≤ 2 ^ (unitExponent count 100 - 1) := by exact_mod_cast near
      _ ≤ 2 ^ (-8 : ℤ) := zpow_le_zpow_right₀ (by norm_num) (by omega)
      _ < 1 / 200 := by norm_num
  rw [Finite.fixed_eq close, sign]

end Binary64

/-- An order value of up to seventy trillion dollars is shown to the exact cent. -/
theorem orderAmount_exact {members order : Members} {value : Value} {cents : Int}
    (placed : members.lookup "order" = some (.object order))
    (given : order.lookup "order_value" = some value)
    (whole : value.numeral? = some (.int cents)) (bounded : cents.natAbs < 100 * 2 ^ 46) :
    orderAmount (.object members) =
      .ok ("$" ++ (if cents < 0 then "-" else "") ++ numeral (cents.natAbs / 100) ++ "." ++
        String.ofList [(cents.natAbs % 100 / 10).digitChar, (cents.natAbs % 10).digitChar]) := by
  -- The division is exact to half a hundredth, which is all that its text shows.
  obtain ⟨x, made, shown⟩ := Binary64.fixed_ofRatio (decide (cents < 0)) bounded
  have divided : hundredth (.int cents) = .ok (.finite x) := by
    simp only [hundredth, made]
  -- Both lookups find a member, so neither default is used.
  have orderFound : memberOr (.object []) "order" (.object members) = .ok (.object order) := by
    simp only [memberOr, placed, Option.getD_some]
  have centsFound : memberOr (.int 0) "order_value" (.object order) = .ok value := by
    simp only [memberOr, given, Option.getD_some]
  have amount : orderAmount (.object members) = .ok ("$" ++ (Binary64.finite x).fixed) := by
    refine bind_eq_ok.mpr ⟨_, orderFound, bind_eq_ok.mpr ⟨_, centsFound, ?_⟩⟩
    rw [whole]
    exact bind_eq_ok.mpr ⟨_, divided, rfl⟩
  rw [amount, shown, hundredths_eq]
  simp only [decide_eq_true_eq, String.append_assoc]

/-- The largest debt within the bound is shown to the exact cent. -/
theorem orderAmount_exact_debt :
    let order : Members := [("tip", .int 5), ("order_value", .int (-7036874417766399))]
    (-7036874417766399 : Int).natAbs < 100 * 2 ^ 46 ∧
      orderAmount (.object [("order", .object order)]) = .ok "$-70368744177663.99" := by
  intro order
  have placed : List.lookup "order" [("order", Value.object order)] = some (.object order) := rfl
  have given : order.lookup "order_value" = some (.int (-7036874417766399)) := rfl
  have bounded : (-7036874417766399 : Int).natAbs < 100 * 2 ^ 46 := by decide
  exact ⟨bounded, orderAmount_exact placed given rfl bounded⟩

-- The bound is sharp: one cent past it the binary number lies nearer to another cent.
example : orderAmount (.object [("order", .object [("order_value", .int 7036874417766401)])]) =
    .ok "$70368744177664.02" := rfl

end DeliveryRules
