import DeliveryRules.Proofs.Number.Decimal
import DeliveryRules.Proofs.Number.Rounding
import DeliveryRules.Proofs.Text.Numeral
import DeliveryRules.Rule.Rendering
import Mathlib.Tactic.Linarith

/-! Numbers are shown in plain decimal notation, and none of their value is lost by it. -/

namespace DeliveryRules

open Decimal (fraction minus)

/-- Whole notation: perhaps a minus, and digits. -/
def IsWhole (text : String) : Prop :=
  ∃ negative whole, text.toList = minus negative ++ whole ∧ whole ≠ [] ∧
    whole.all isAsciiDigit = true

/-- Plain notation: perhaps a minus, digits, and perhaps more digits behind a point. -/
def IsPlain (text : String) : Prop :=
  ∃ negative whole places, text.toList = minus negative ++ (whole ++ fraction places) ∧
    whole ≠ [] ∧ whole.all isAsciiDigit = true ∧ places.all isAsciiDigit = true

/-- A text denotes the number that it is read as, with or without an exponent. -/
def Denotes (text : String) (number : ℚ) : Prop :=
  ∃ read, Decimal.ofText? text.toList = some read ∧ read.value = number

/-- What needs no fraction is plain. -/
theorem IsWhole.isPlain {text : String} (whole : IsWhole text) : IsPlain text := by
  obtain ⟨negative, digits, written, filled, known⟩ := whole
  refine ⟨negative, digits, [], ?_, filled, known, rfl⟩
  rw [written, fraction, if_pos rfl, List.append_nil]

/-- Whole numbers are written in whole notation. -/
theorem isWhole_signedNumeral (n : Int) : IsWhole (signedNumeral n) := by
  refine ⟨decide (n < 0), digitsOf n.natAbs, ?_, Nat.toDigits_ne_nil, all_isAsciiDigit_digitsOf _⟩
  -- The sign is written for negative numbers only.
  by_cases negative : n < 0 <;> simp [signedNumeral, numeral, minus, negative]

/-- What is written for a whole number denotes it. -/
theorem denotes_signedNumeral (n : Int) : Denotes (signedNumeral n) n := by
  have filled : digitsOf n.natAbs ≠ [] := Nat.toDigits_ne_nil
  -- The digits are read back without a fraction and without an exponent.
  have spelled := Decimal.ofText?_spelled (decide (n < 0)) filled
    (all_isAsciiDigit_digitsOf n.natAbs) (rfl : [].all isAsciiDigit = true)
    (rfl : Decimal.exponentOf? [] = some 0)
  refine ⟨_, (congrArg Decimal.ofText? ?_).trans spelled, ?_⟩
  · by_cases negative : n < 0 <;> simp [signedNumeral, numeral, minus, fraction, negative]
  · rw [List.append_nil, ofDigits_digitsOf]
    by_cases negative : n < 0
    · simp [Decimal.value, negative, abs_of_neg]
    · simp [Decimal.value, negative, abs_of_nonneg (not_lt.mp negative)]

/-- What is written for a decimal without an exponent is plain. -/
theorem isPlain_plain (d : Decimal) : IsPlain d.plain := by
  -- A decimal is written by position, with zeros where its exponent asks for them.
  obtain ⟨whole, places, written, filled, wholeDigits, placeDigits, _⟩ := d.positional_spec
  refine ⟨d.negative, whole, places, ?_, filled, wholeDigits, placeDigits⟩
  rw [Decimal.plain, String.toList_ofList, written]
  rfl

namespace Binary64.Finite

/-- The number that a finite one is, with its sign. -/
def value (x : Finite) : ℚ := (if x.negative then -1 else 1) * x.magnitude

/-- Without a fraction, the whole part of the ratio is the magnitude. -/
theorem magnitude_eq {x : Finite} (whole : x.isInteger = true) :
    x.magnitude = (x.ratio.1 / x.ratio.2 : Nat) := by
  -- The denominator divides the numerator, so the quotient is exact.
  obtain ⟨quotient, multiple⟩ : x.ratio.2 ∣ x.ratio.1 :=
    Nat.dvd_of_mod_eq_zero (beq_iff_eq.mp whole)
  have width : (x.ratio.2 : ℚ) ≠ 0 := by exact_mod_cast x.ratio_pos.ne'
  rw [← x.ratio_value, multiple, Nat.mul_div_cancel_left quotient x.ratio_pos, Nat.cast_mul,
    mul_div_cancel_left₀ _ width]

/-- Without a fraction, the whole part of a number is the number. -/
theorem toInt_eq {x : Finite} (whole : x.isInteger = true) : (x.toInt : ℚ) = x.value := by
  rw [value, magnitude_eq whole, toInt]
  cases x.negative <;> simp [-Int.natCast_ediv]

/-- A number has no fraction exactly if it is a whole number. -/
theorem isInteger_iff (x : Finite) : x.isInteger = true ↔ ∃ n : Int, x.value = n := by
  constructor
  · intro whole
    exact ⟨x.toInt, (toInt_eq whole).symm⟩
  · rintro ⟨n, exact⟩
    have width : (x.ratio.2 : ℚ) ≠ 0 := by exact_mod_cast x.ratio_pos.ne'
    -- The sign does not matter for whether the denominator divides the numerator.
    have magnitude : x.magnitude = n ∨ x.magnitude = -n := by
      rw [value] at exact
      cases sign : x.negative
      · left
        simpa [sign] using exact
      · right
        rw [sign] at exact
        simp only [if_true] at exact
        linarith
    have divides : (x.ratio.2 : Int) ∣ x.ratio.1 := by
      rw [← x.ratio_value, div_eq_iff width, div_eq_iff width] at magnitude
      rcases magnitude with same | opposite
      · refine ⟨n, ?_⟩
        rw [Int.mul_comm]
        exact_mod_cast same
      · refine ⟨-n, ?_⟩
        rw [Int.mul_comm]
        exact_mod_cast opposite
    exact beq_iff_eq.mpr (Nat.mod_eq_zero_of_dvd (Int.natCast_dvd_natCast.mp divides))

end Binary64.Finite

/--
Whole numbers are shown exactly, and others as plainly as their short text allows.

A number with a fraction is shown with the value of its short text, which may have an exponent.
Only a whole number that is no float, and that has too many digits, is not shown.
-/
theorem renderLiteral_plain (nesting : Int) :
    (∀ n : Int, isShort n = true → ∃ text, renderLiteral nesting (.int n) = .ok text ∧
      IsWhole text ∧ Denotes text n) ∧
    (∀ n : Int, renderLiteral nesting (.int n) = .error .tooManyDigits ↔
      tenTo digitLimit ≤ n.natAbs) ∧
    ∀ x : Binary64.Finite, ∃ text, renderLiteral nesting (.float (.finite x)) = .ok text ∧
      IsPlain text ∧ (x.value = 0 → text = "0") ∧
      ((∃ n : Int, x.value = n) → IsWhole text ∧ Denotes text x.value) ∧
      ((¬∃ n : Int, x.value = n) → ∃ number,
        Denotes text number ∧ Denotes (Binary64.text (.finite x)) number) := by
  refine ⟨fun n short => ⟨signedNumeral n, ?_, isWhole_signedNumeral n, denotes_signedNumeral n⟩,
    fun n => ?_, fun x => ⟨x.plain, rfl, ?_⟩⟩
  · rw [renderLiteral, short, NumeralError.guard_true]
  · -- A number is shown exactly if it lies within the power of ten.
    rw [renderLiteral, NumeralError.guard_eq_error, ← Bool.not_eq_true, isShort_iff, not_lt]
  by_cases whole : x.isInteger = true
  -- A whole number is shown as the numeral of itself, and zero loses its sign by that.
  · have written : x.plain = signedNumeral x.toInt := if_pos whole
    rw [written, ← Binary64.Finite.toInt_eq whole]
    refine ⟨(isWhole_signedNumeral _).isPlain, fun zero => ?_,
      fun _ => ⟨isWhole_signedNumeral _, denotes_signedNumeral _⟩, fun fractional => ?_⟩
    · rw [Int.cast_eq_zero.mp zero]
      rfl
    · exact absurd ⟨x.toInt, rfl⟩ fractional
  -- Any other number goes through its shortest decimal, as its short text does.
  · have written : x.plain = x.shortest.plain := if_neg whole
    have fractional : ¬∃ n : Int, x.value = n := fun exact => whole (x.isInteger_iff.mpr exact)
    rw [written]
    refine ⟨isPlain_plain _, fun zero => ?_, fun exact => absurd exact fractional, fun _ => ?_⟩
    · exact absurd ⟨0, by rw [zero, Int.cast_zero]⟩ fractional
    · exact ⟨x.shortest.value, x.shortest.ofText?_plain, x.shortest.ofText?_short⟩

/--
The largest whole number that is shown is shown as itself.

The negative number next to zero is shown with all its zeros, and as much as its short text.
-/
theorem renderLiteral_plain_least :
    let x : Binary64.Finite := ⟨true, 1, -1074, rfl⟩
    (isShort (tenTo digitLimit - 1) = true ∧
      ∃ text, renderLiteral 32 (.int (tenTo digitLimit - 1)) = .ok text ∧ IsWhole text) ∧
    (¬∃ n : Int, x.value = n) ∧
      ∃ text, renderLiteral 32 (.float (.finite x)) = .ok text ∧ IsPlain text ∧
        ∃ number, Denotes text number ∧ Denotes "-5e-324" number := by
  intro x
  obtain ⟨whole, _, finite⟩ := renderLiteral_plain 32
  have short : isShort (tenTo digitLimit - 1) = true := by
    rw [isShort_iff]
    -- Only that the power is positive matters, and not how large it is.
    have positive := tenTo_pos digitLimit
    generalize tenTo digitLimit = power at positive ⊢
    omega
  obtain ⟨numeral, shown, isWhole, _⟩ := whole _ short
  -- The least float has a denominator that does not divide its numerator.
  have fractional : ¬∃ n : Int, x.value = n := by
    rw [← x.isInteger_iff]
    decide
  have known : Binary64.text (.finite x) = "-5e-324" := by decide +kernel
  -- The plain text has the value of the short one.
  obtain ⟨text, written, plain, _, _, kept⟩ := finite x
  exact ⟨⟨short, numeral, shown, isWhole⟩, fractional, text, written, plain,
    known ▸ kept fractional⟩

/-- The first number with too many digits is not shown at all. -/
theorem renderLiteral_tooLong :
    renderLiteral 32 (.int (tenTo digitLimit)) = .error .tooManyDigits := by
  rw [renderLiteral, isShort_tenTo, NumeralError.guard_false]

-- The exponent of the short text is worked off by zeros.
example : renderLiteral 32 (.float (.ofRatio false 1 10000000)) = .ok "0.0000001" := by
  decide +kernel

end DeliveryRules
