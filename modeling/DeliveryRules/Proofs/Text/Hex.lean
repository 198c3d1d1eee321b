import DeliveryRules.Text.Hex
import Mathlib.Tactic.IntervalCases

/-! Hexadecimal digits stand for the number that they were written for. -/

namespace DeliveryRules

/-- The digit written for a number below sixteen stands for that number. -/
theorem hexValue?_digitChar (digit : Nat) (single : digit < 16) :
    hexValue? digit.digitChar = some digit := by
  interval_cases digit <;> rfl

/-- The last digit is the remainder, and the padding stays in front of the others. -/
theorem hexDigits_succ {width : Nat} (room : 0 < width) (n : Nat) :
    hexDigits (width + 1) n = hexDigits width (n / 16) ++ [(n % 16).digitChar] := by
  by_cases single : n < 16
  · -- All other digits are padding, the last of them being the zero that is left.
    have left : n / 16 = 0 := by omega
    have last : n % 16 = n := Nat.mod_eq_of_lt single
    obtain ⟨more, rfl⟩ := Nat.exists_eq_add_one.mpr room
    have zero : Nat.toDigits 16 0 = ['0'] := rfl
    simp [hexDigits, left, last, zero, Nat.toDigits_of_lt_base single, List.replicate_succ']
  -- A longer number has its last digit behind those of the quotient.
  · have digits := Nat.toDigits_of_base_le (b := 16) (by decide) (by omega : 16 ≤ n)
    simp [hexDigits, digits]

/-- Sixteen bits are written in four digits, zeros included. -/
theorem hexDigits_four {unit : Nat} (small : unit < 0x10000) :
    hexDigits 4 unit =
      [(unit / 4096).digitChar, (unit / 256 % 16).digitChar, (unit / 16 % 16).digitChar,
        (unit % 16).digitChar] := by
  -- Three digits are split off, and the last quotient is a digit itself.
  have first : hexDigits 1 (unit / 16 / 16 / 16) = [(unit / 16 / 16 / 16).digitChar] := by
    simp [hexDigits, Nat.toDigits_of_lt_base (by omega : unit / 16 / 16 / 16 < 16)]
  rw [hexDigits_succ (by decide), hexDigits_succ (by decide), hexDigits_succ (by decide), first]
  simp [Nat.div_div_eq_div_mul]

end DeliveryRules
