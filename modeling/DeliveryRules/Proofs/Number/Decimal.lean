import DeliveryRules.Number.Decimal
import DeliveryRules.Proofs.Text.Numeral
import Mathlib.Algebra.Field.Basic
import Mathlib.Algebra.Order.Field.Power
import Mathlib.Algebra.Order.Field.Rat
import Mathlib.Tactic.FieldSimp
import Mathlib.Tactic.NormNum
import Mathlib.Tactic.Ring

/-! Decimals are read back with the value they were written for, with or without an exponent. -/

namespace DeliveryRules

/-- Each zero behind digits multiplies them by ten. -/
theorem ofDigits_append_zeros (digits : List Char) (count : Nat) :
    ofDigits (digits ++ List.replicate count '0') = ofDigits digits * 10 ^ count := by
  rw [ofDigits_eq, ofDigits_eq, Nat.ofDigitChars_append, Nat.ofDigitChars_replicate_zero,
    Nat.mul_comm]

namespace Decimal

/-- The number that a decimal stands for. -/
def value (d : Decimal) : ℚ :=
  (if d.negative then -1 else 1) * (d.coefficient * 10 ^ d.exponent)

/-- Digits behind a point, which is left out where there are none. -/
def fraction (places : List Char) : List Char := if places = [] then [] else '.' :: places

/-- A minus sign, or nothing. -/
def minus (negative : Bool) : List Char := if negative then ['-'] else []

variable {whole places tail : List Char}

/-- What an exponent is read from goes on with no digit and no point. -/
theorem exponentOf?_tail {power : Int} (read : exponentOf? tail = some power) :
    ∀ c ∈ tail.head?, isAsciiDigit c = false ∧ c ≠ '.' := by
  intro c first
  obtain ⟨rest, rfl⟩ := List.head?_eq_some_iff.mp first
  -- An exponent begins with its mark, of which there are two.
  by_cases mark : c = 'e' ∨ c = 'E'
  · rcases mark with rfl | rfl <;> decide
  · simp [exponentOf?, mark] at read

/-- Digits end where something else follows them. -/
theorem spanDigits_append (digits : whole.all isAsciiDigit = true)
    (ended : ∀ c ∈ tail.head?, isAsciiDigit c = false) :
    spanDigits (whole ++ tail) = (whole, tail) := by
  -- The digits are taken as long as they last, and what follows begins with none.
  have all := List.all_eq_true.mp digits
  have none : tail.takeWhile isAsciiDigit = [] ∧ tail.dropWhile isAsciiDigit = tail := by
    cases tail with
    | nil => exact ⟨rfl, rfl⟩
    | cons c rest =>
      have other := ended c rfl
      simp [List.takeWhile, List.dropWhile, other]
  rw [spanDigits, List.takeWhile_append_of_pos all, List.dropWhile_append_of_pos all, none.1,
    none.2, List.append_nil]

/-- A minus in front of an unsigned text only changes the sign of what is read. -/
theorem ofText?_minus {text : List Char} (unsigned : ∀ rest, text = '-' :: rest → False) :
    ofText? ('-' :: text) = (ofText? text).map fun d => { d with negative := true } := by
  rw [ofText?, ofText?]
  -- Behind the sign both texts are the same, so they are read by the same cases.
  · rcases spanDigits text with ⟨whole, afterWhole⟩
    dsimp only
    split_ifs
    · rfl
    · split
      · rename_i rest
        rcases spanDigits rest with ⟨places, afterPlaces⟩
        dsimp only
        split_ifs <;> simp [Function.comp_def]
      · simp [Function.comp_def]
  · exact unsigned

/-- Digits, more digits behind a point and an exponent are read as what they say. -/
theorem ofText?_unsigned {power : Int} (filled : whole ≠ [])
    (wholeDigits : whole.all isAsciiDigit = true) (placeDigits : places.all isAsciiDigit = true)
    (read : exponentOf? tail = some power)
    (unsigned : ∀ rest, whole ++ (fraction places ++ tail) = '-' :: rest → False) :
    ofText? (whole ++ (fraction places ++ tail)) =
      some ⟨false, ofDigits (whole ++ places), power - places.length⟩ := by
  -- Neither a digit nor a point follows, so both parts of the number end where they should.
  have ended := exponentOf?_tail read
  have tailEnded : ∀ c ∈ tail.head?, isAsciiDigit c = false := fun c first => (ended c first).1
  have placeSpan := spanDigits_append placeDigits tailEnded
  rw [ofText?]
  · by_cases bare : places = []
    -- Without a fraction the digits are followed by the exponent at once.
    · subst bare
      have wholeSpan := spanDigits_append wholeDigits tailEnded
      have pointless : ∀ rest, tail = '.' :: rest → False := by
        rintro rest rfl
        exact (ended '.' rfl).2 rfl
      simp only [fraction, if_true, List.nil_append, List.append_nil, wholeSpan]
      simp [filled, read]
    · have wholeSpan : spanDigits (whole ++ '.' :: (places ++ tail)) =
          (whole, '.' :: (places ++ tail)) :=
        spanDigits_append wholeDigits fun c first => by
          obtain rfl : c = '.' := by simpa using first.symm
          rfl
      simp only [fraction, if_neg bare, List.cons_append, wholeSpan, placeSpan]
      simp [filled, bare, read]
  · exact unsigned

/-- A sign, digits, more digits behind a point and an exponent are read as what they say. -/
theorem ofText?_spelled (negative : Bool) {power : Int} (filled : whole ≠ [])
    (wholeDigits : whole.all isAsciiDigit = true) (placeDigits : places.all isAsciiDigit = true)
    (read : exponentOf? tail = some power) :
    ofText? (minus negative ++ (whole ++ (fraction places ++ tail))) =
      some ⟨negative, ofDigits (whole ++ places), power - places.length⟩ := by
  -- The text begins with a digit, so the sign is the only one there is.
  have unsigned : ∀ rest, whole ++ (fraction places ++ tail) = '-' :: rest → False := by
    obtain ⟨c, others, rfl⟩ := List.exists_cons_of_ne_nil filled
    intro rest same
    obtain ⟨rfl, _⟩ := List.cons.inj same
    exact absurd (List.all_eq_true.mp wholeDigits '-' (by simp)) (by decide)
  have plain := ofText?_unsigned filled wholeDigits placeDigits read unsigned
  cases negative with
  | false => exact plain
  | true =>
    have signed := ofText?_minus unsigned
    rwa [plain] at signed

/-- Zeros are digits. -/
theorem all_isAsciiDigit_zeros (count : Nat) : (zeros count).all isAsciiDigit = true := by
  simp [zeros, isAsciiDigit]

/-- A decimal has digits. -/
theorem digits_ne_nil (d : Decimal) : d.digits ≠ [] := Nat.toDigits_ne_nil

/-- A decimal without a fraction is written as digits only, which are its magnitude. -/
theorem positional_of_nonneg {d : Decimal} (nonneg : 0 ≤ d.exponent) :
    d.positional ≠ [] ∧ d.positional.all isAsciiDigit = true ∧
      (ofDigits d.positional : ℚ) = d.coefficient * 10 ^ d.exponent := by
  -- The digits are those of the coefficient, which is read back from them.
  have filled : 0 < d.digits.length := List.length_pos_iff.mpr d.digits_ne_nil
  have digits : d.digits.all isAsciiDigit = true := all_isAsciiDigit_digitsOf d.coefficient
  have read : ofDigits d.digits = d.coefficient := ofDigits_digitsOf d.coefficient
  have stands : d.pointPlace = Int.ofNat (d.digits.length + d.exponent.toNat) := by
    simp only [pointPlace, Int.ofNat_eq_natCast]
    omega
  -- The point would stand behind as many zeros as the exponent says.
  have written : d.positional = d.digits ++ zeros d.exponent.toNat := by
    rw [positional]
    simp only [stands]
    rw [if_neg (by omega), if_pos (by omega), Nat.add_sub_cancel_left]
  rw [written]
  refine ⟨by simp [d.digits_ne_nil], ?_, ?_⟩
  · rw [List.all_append, digits, all_isAsciiDigit_zeros, Bool.and_self]
  · have power : (10 : ℚ) ^ d.exponent = 10 ^ d.exponent.toNat := by
      rw [← zpow_natCast, Int.toNat_of_nonneg nonneg]
    rw [zeros, ofDigits_append_zeros, read, power]
    push_cast
    rfl

/-- A decimal with a fraction is written with a point, as far from the end as its exponent says. -/
theorem positional_of_neg {d : Decimal} (fractional : d.exponent < 0) :
    ∃ whole places, d.positional = whole ++ '.' :: places ∧ whole ≠ [] ∧
      whole.all isAsciiDigit = true ∧ places.all isAsciiDigit = true ∧
      ofDigits (whole ++ places) = d.coefficient ∧ (places.length : ℤ) = -d.exponent := by
  -- Where the point stands is counted from the front of the digits.
  have digits : d.digits.all isAsciiDigit = true := all_isAsciiDigit_digitsOf d.coefficient
  have read : ofDigits d.digits = d.coefficient := ofDigits_digitsOf d.coefficient
  have counted : d.pointPlace = d.digits.length + d.exponent := rfl
  cases stands : d.pointPlace with
  | ofNat place =>
    rw [stands, Int.ofNat_eq_natCast] at counted
    rcases Nat.eq_zero_or_pos place with rfl | positive
    -- All digits stand behind the point, and a zero in front of it.
    · refine ⟨['0'], d.digits, ?_, by simp, by decide, digits, ?_, by omega⟩
      · simp only [positional, stands, if_true, List.cons_append, List.nil_append]
      · rw [← read]
        exact ofDigits_zeros 1 d.digits
    -- The point stands among the digits.
    · have inside : place < d.digits.length := by omega
      refine ⟨d.digits.take place, d.digits.drop place, ?_, ?_, ?_, ?_, ?_, ?_⟩
      · simp only [positional, stands]
        rw [if_neg (by omega), if_neg (by omega)]
      · intro empty
        rcases List.take_eq_nil_iff.mp empty with zero | none
        · omega
        · exact d.digits_ne_nil none
      · exact List.all_eq_true.mpr fun c member =>
          List.all_eq_true.mp digits c (List.mem_of_mem_take member)
      · exact List.all_eq_true.mpr fun c member =>
          List.all_eq_true.mp digits c (List.mem_of_mem_drop member)
      · rw [List.take_append_drop, read]
      · rw [List.length_drop]
        omega
  | negSucc before =>
    rw [stands] at counted
    -- Zeros stand between the point and the digits.
    refine ⟨['0'], zeros (before + 1) ++ d.digits, ?_, by simp, by decide, ?_, ?_, ?_⟩
    · simp only [positional, stands, List.cons_append, List.nil_append]
    · rw [List.all_append, digits, all_isAsciiDigit_zeros, Bool.and_self]
    · rw [← read]
      exact ofDigits_zeros (before + 2) d.digits
    · simp only [zeros, List.length_append, List.length_replicate]
      omega

/-- The positional form of a decimal: digits with its magnitude, perhaps with a point among them. -/
theorem positional_spec (d : Decimal) :
    ∃ whole places, d.positional = whole ++ fraction places ∧ whole ≠ [] ∧
      whole.all isAsciiDigit = true ∧ places.all isAsciiDigit = true ∧
      (ofDigits (whole ++ places) : ℚ) * 10 ^ (-(places.length : ℤ)) =
        d.coefficient * 10 ^ d.exponent := by
  -- There is a point exactly if the exponent is negative.
  rcases lt_or_ge d.exponent 0 with fractional | nonneg
  · obtain ⟨whole, places, written, filled, wholeDigits, placeDigits, read, length⟩ :=
      positional_of_neg fractional
    -- Behind the point there are as many digits as the exponent says, so there are some.
    have pointed : places ≠ [] := by
      rintro rfl
      simp at length
      omega
    refine ⟨whole, places, ?_, filled, wholeDigits, placeDigits, ?_⟩
    · rw [written, fraction, if_neg pointed]
    · rw [read, length, neg_neg]
  · obtain ⟨filled, digits, same⟩ := positional_of_nonneg nonneg
    refine ⟨d.positional, [], ?_, filled, digits, rfl, ?_⟩
    · rw [fraction, if_pos rfl, List.append_nil]
    · simpa using same

/-- The digits of a power of ten, of which there are at least two. -/
theorem twoDigits_spec (n : Nat) :
    twoDigits n ≠ [] ∧ (twoDigits n).all isAsciiDigit = true ∧ ofDigits (twoDigits n) = n := by
  have filled : digitsOf n ≠ [] := Nat.toDigits_ne_nil
  have digits : (digitsOf n).all isAsciiDigit = true := all_isAsciiDigit_digitsOf n
  -- A single digit gets a zero in front, which adds nothing to it.
  unfold twoDigits
  split_ifs
  · refine ⟨by simp, ?_, ?_⟩
    · rw [List.all_cons, digits, Bool.and_true]
      rfl
    · exact (ofDigits_zeros 1 (digitsOf n)).trans (ofDigits_digitsOf n)
  · exact ⟨filled, digits, ofDigits_digitsOf n⟩

/-- A power of ten is read back from its mark, its sign and its digits. -/
theorem exponentOf?_power (power : Int) :
    exponentOf? ('e' :: (if power < 0 then '-' else '+') :: twoDigits power.natAbs) =
      some power := by
  -- The sign is written in any case, and the digits are those of the magnitude.
  obtain ⟨filled, digits, read⟩ := twoDigits_spec power.natAbs
  have plain : (twoDigits power.natAbs).isEmpty = false := by simpa using filled
  by_cases negative : power < 0
  · simp [exponentOf?, negative, plain, digits, read, abs_of_neg]
  · simp [exponentOf?, negative, plain, digits, read]
    omega

/-- The scientific form of a decimal: one digit, the others behind a point, and a power of ten. -/
theorem scientific_spec (d : Decimal) :
    ∃ whole places tail power, d.scientific = whole ++ (fraction places ++ tail) ∧ whole ≠ [] ∧
      whole.all isAsciiDigit = true ∧ places.all isAsciiDigit = true ∧
      exponentOf? tail = some power ∧
      (ofDigits (whole ++ places) : ℚ) * 10 ^ (power - places.length) =
        d.coefficient * 10 ^ d.exponent := by
  have digits : d.digits.all isAsciiDigit = true := all_isAsciiDigit_digitsOf d.coefficient
  have read : ofDigits d.digits = d.coefficient := ofDigits_digitsOf d.coefficient
  -- There is at least one digit, and the point comes behind the first.
  obtain ⟨c, rest, split⟩ := List.exists_cons_of_ne_nil d.digits_ne_nil
  let power := d.pointPlace - 1
  let tail := 'e' :: (if power < 0 then '-' else '+') :: twoDigits power.natAbs
  rw [split, List.all_cons, Bool.and_eq_true] at digits
  refine ⟨[c], rest, tail, power, ?_, by simp, ?_, digits.2, exponentOf?_power power, ?_⟩
  · cases rest <;> simp only [scientific, split] <;> rfl
  · rw [List.all_cons, digits.1]
    rfl
  -- The point moved behind the first digit, and the power makes up for it.
  · have length : d.digits.length = rest.length + 1 := by rw [split, List.length_cons]
    have moved : power - rest.length = d.exponent := by
      simp only [power, pointPlace, Int.ofNat_eq_natCast]
      omega
    rw [List.singleton_append, ← split, read, moved]

/-- What is read from a spelled decimal has the value that its digits and its power give. -/
theorem value_spelled (d : Decimal) {coefficient : Nat} {exponent : Int}
    (same : (coefficient : ℚ) * 10 ^ exponent = d.coefficient * 10 ^ d.exponent) :
    (⟨d.negative, coefficient, exponent⟩ : Decimal).value = d.value := by
  rw [value, value, same]

/-- Plain text is read as a decimal of the same value. -/
theorem ofText?_plain (d : Decimal) :
    ∃ read, ofText? d.plain.toList = some read ∧ read.value = d.value := by
  -- A text without an exponent is read with an exponent of nothing.
  obtain ⟨whole, places, written, filled, wholeDigits, placeDigits, same⟩ := positional_spec d
  have spelled := ofText?_spelled d.negative filled wholeDigits placeDigits
    (rfl : exponentOf? [] = some 0)
  refine ⟨_, ?_, value_spelled d ((zero_sub (places.length : ℤ)).symm ▸ same)⟩
  rw [plain, String.toList_ofList, written, ← spelled, List.append_nil]
  rfl

/-- Short text is read as a decimal of the same value. -/
theorem ofText?_short (d : Decimal) :
    ∃ read, ofText? d.short.toList = some read ∧ read.value = d.value := by
  rw [short, String.toList_ofList]
  -- The three forms are a power of ten, a point among the digits, and digits with a zero behind.
  split_ifs with exponential fractional
  · obtain ⟨whole, places, tail, power, written, filled, wholeDigits, placeDigits, marked, same⟩ :=
      scientific_spec d
    have spelled := ofText?_spelled d.negative filled wholeDigits placeDigits marked
    refine ⟨_, ?_, value_spelled d same⟩
    rw [written, ← spelled]
    rfl
  · have plain := ofText?_plain d
    rwa [Decimal.plain, String.toList_ofList] at plain
  -- A number without a fraction gets a zero behind a point, which counts as a tenth of nothing.
  · obtain ⟨filled, digits, same⟩ := positional_of_nonneg (not_lt.mp fractional)
    have spelled := ofText?_spelled d.negative filled digits (rfl : ['0'].all isAsciiDigit = true)
      (rfl : exponentOf? [] = some 0)
    refine ⟨_, spelled, value_spelled d ?_⟩
    have shifted : ofDigits (d.positional ++ ['0']) = ofDigits d.positional * 10 :=
      ofDigits_append_zeros d.positional 1
    rw [shifted, ← same]
    simp

end Decimal

end DeliveryRules
