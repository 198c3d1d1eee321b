import DeliveryRules.Text.Digit

/-! Numerals are made of decimal digits, and stand for the numbers that they were written for. -/

namespace DeliveryRules

/-- An ASCII digit is a decimal digit, of the value that its place among them gives. -/
theorem digitValue?_of_isDigit {c : Char} (digit : c.isDigit = true) :
    digitValue? c = some (c.toNat - '0'.toNat) := by
  -- The digits of ASCII are the first ones that are looked through.
  have range : 48 ≤ c.toNat ∧ c.toNat < 58 := by
    simp only [Char.isDigit, Bool.and_eq_true, decide_eq_true_eq, ge_iff_le,
      UInt32.le_iff_toNat_le] at digit
    exact ⟨digit.1, Nat.lt_succ_of_le digit.2⟩
  rw [digitValue?, digitZeros, List.find?_cons_of_pos (by simpa using range)]
  rfl

/-- A numeral is made of decimal digits. -/
theorem isDecimalDigit_of_mem_digitsOf {n : Nat} {c : Char} (member : c ∈ digitsOf n) :
    isDecimalDigit c = true := by
  have digit := Nat.isDigit_of_mem_toDigits (by decide) (by decide) member
  simp [isDecimalDigit, digitValue?_of_isDigit digit]

/-- The value of a numeral is the number that it is the numeral of. -/
theorem digitsValue_digitsOf (n : Nat) : digitsValue (digitsOf n) = n := by
  -- On digits of ASCII both readings of a numeral take the same steps.
  have same : ∀ (digits : List Char) (total : Nat), (∀ c ∈ digits, c.isDigit = true) →
      digits.foldl (fun total c => total * 10 + (digitValue? c).getD 0) total =
        Nat.ofDigitChars 10 digits total := by
    -- The total is generalised, since each digit changes it for the rest.
    intro digits
    induction digits with
    | nil => exact fun total _ => rfl
    | cons c rest ih =>
      intro total known
      have step : total * 10 + (digitValue? c).getD 0 = 10 * total + (c.toNat - '0'.toNat) := by
        rw [digitValue?_of_isDigit (known c (by simp)), Option.getD_some, Nat.mul_comm]
      rw [List.foldl_cons, step]
      exact ih _ fun other member => known other (List.mem_cons_of_mem c member)
  have digits : ∀ c ∈ digitsOf n, c.isDigit = true :=
    fun c member => Nat.isDigit_of_mem_toDigits (by decide) (by decide) member
  rw [digitsValue, same _ 0 digits]
  exact Nat.ofDigitChars_toDigits (by decide) (by decide)

/-- Numerals of different numbers differ. -/
theorem digitsOf_injective {m n : Nat} (same : digitsOf m = digitsOf n) : m = n := by
  have values := congrArg digitsValue same
  rwa [digitsValue_digitsOf, digitsValue_digitsOf] at values

/-- The digits that are written are those of ASCII. -/
theorem isAsciiDigit_eq (c : Char) : isAsciiDigit c = c.isDigit := by
  simp [isAsciiDigit, Char.isDigit, Char.le_def]

/-- A numeral is made of ASCII digits. -/
theorem all_isAsciiDigit_digitsOf (n : Nat) : (digitsOf n).all isAsciiDigit = true := by
  rw [List.all_eq_true]
  intro c member
  rw [isAsciiDigit_eq]
  exact Nat.isDigit_of_mem_toDigits (by decide) (by decide) member

/-- Digits are read from the left, each one adding to ten times what came before it. -/
theorem ofDigits_eq (digits : List Char) : ofDigits digits = Nat.ofDigitChars 10 digits 0 := by
  simp only [ofDigits, Nat.ofDigitChars, Nat.mul_comm 10]

/-- A numeral is read as the number that it is the numeral of. -/
@[simp] theorem ofDigits_digitsOf (n : Nat) : ofDigits (digitsOf n) = n := by
  rw [ofDigits_eq]
  exact Nat.ofDigitChars_toDigits (by decide) (by decide)

/-- Zeros in front of digits add nothing. -/
theorem ofDigits_zeros (count : Nat) (digits : List Char) :
    ofDigits (List.replicate count '0' ++ digits) = ofDigits digits := by
  rw [ofDigits_eq, ofDigits_eq, Nat.ofDigitChars_append, Nat.ofDigitChars_replicate_zero,
    Nat.mul_zero]

/-- A numeral ends before a bracket closes. -/
theorem bracket_notMem_digitsOf (n : Nat) : ']' ∉ digitsOf n :=
  fun member => absurd (isDecimalDigit_of_mem_digitsOf member) (by decide)

namespace NumeralError

variable {α β : Type} {areShort : Bool} {content result : α}

/-- Nothing stands in the way of short numbers. -/
@[simp] theorem guard_true : guard true content = .ok content := rfl

/-- Numbers that are too long leave nothing. -/
@[simp] theorem guard_false : guard false content = .error .tooManyDigits := rfl

/-- There is no result exactly if some number is too long. -/
theorem guard_eq_error {reason : NumeralError} :
    guard areShort content = .error reason ↔ areShort = false := by
  cases reason
  cases areShort <;> simp

/-- A result is changed where there is one. -/
@[simp] theorem map_guard (change : α → β) :
    (guard areShort content).map change = guard areShort (change content) := by
  cases areShort <;> rfl

end NumeralError

/-- A power of ten is positive. -/
theorem tenTo_pos (places : Nat) : 0 < tenTo places := Nat.pow_pos (by decide)

/-- A higher power of ten is no smaller. -/
theorem tenTo_le {few many : Nat} (more : few ≤ many) : tenTo few ≤ tenTo many :=
  Nat.pow_le_pow_right (by decide) more

/-- A number has no more digits than some exactly if it is below the power of ten of that. -/
theorem length_digitsOf_le_iff {n places : Nat} (positive : 0 < places) :
    (digitsOf n).length ≤ places ↔ n < tenTo places :=
  Nat.length_toDigits_le_iff (by decide) positive

/-- A number has few enough digits exactly if it lies within a power of ten. -/
theorem isShort_iff {n : Int} : isShort n = true ↔ n.natAbs < tenTo digitLimit := by
  -- The digits are those of the magnitude, without the sign.
  rw [isShort, decide_eq_true_iff, length_digitsOf_le_iff (by decide)]

/-- The power of ten that no short number reaches is not short itself. -/
theorem isShort_tenTo : isShort (tenTo digitLimit) = false := by
  refine Bool.eq_false_iff.mpr fun short => ?_
  -- It would be smaller than itself.
  have smaller := isShort_iff.mp short
  rw [Int.natAbs_natCast] at smaller
  exact Nat.lt_irrefl _ smaller

end DeliveryRules
