import DeliveryRules.Proofs.Text.Numeral
import DeliveryRules.Text.Quoted

/-! Quoted text and numerals stay on the line that they are put on. -/

namespace DeliveryRules

/-- A text without a line break in it. -/
def IsOneLine (text : String) : Prop := '\n' ∉ text.toList

/-- A text is on one line if there is no line break among its characters. -/
theorem IsOneLine.ofList {characters : List Char} (unbroken : '\n' ∉ characters) :
    IsOneLine (String.ofList characters) := by
  rwa [IsOneLine, String.toList_ofList]

/-- Texts of one line each make one line together. -/
theorem IsOneLine.append {first second : String} (here : IsOneLine first)
    (there : IsOneLine second) : IsOneLine (first ++ second) := by
  unfold IsOneLine at here there ⊢
  rw [String.toList_append, List.mem_append]
  exact fun broken => broken.elim here there

/-- A numeral holds digits only. -/
theorem isOneLine_numeral (n : Nat) : IsOneLine (numeral n) := by
  intro broken
  rw [numeral, String.toList_ofList] at broken
  exact absurd (isDecimalDigit_of_mem_digitsOf broken) (by decide)

/-- A sign is no line break. -/
theorem isOneLine_signedNumeral (n : Int) : IsOneLine (signedNumeral n) := by
  unfold signedNumeral
  -- A minus stands in front of negative numbers only.
  split
  · exact IsOneLine.append (.ofList (by decide)) (isOneLine_numeral _)
  · exact isOneLine_numeral _

/-- Hexadecimal digits are letters and digits. -/
theorem lineBreak_notMem_hexDigits (width n : Nat) : '\n' ∉ hexDigits width n := by
  have digits : '\n' ∉ Nat.toDigits 16 n := by
    induction n using Nat.strongRecOn with
    | ind n ih =>
      have last : ∀ digit < 16, digit.digitChar ≠ '\n' := by decide
      by_cases single : n < 16
      · rw [Nat.toDigits_of_lt_base single, List.mem_singleton]
        exact (last n single).symm
      -- A longer number ends with its remainder, and begins with the digits of its quotient.
      · rw [Nat.toDigits_of_base_le (by decide) (by omega), List.mem_append, List.mem_singleton]
        rintro (earlier | remainder)
        · exact ih (n / 16) (by omega) earlier
        · exact last (n % 16) (Nat.mod_lt n (by decide)) remainder.symm
  rw [hexDigits, List.mem_append, List.mem_replicate]
  rintro (⟨-, padding⟩ | digit)
  · exact absurd padding (by decide)
  · exact digits digit

/-- A line break is never left as it is inside quotes. -/
theorem lineBreak_notMem_quotedChar {quote : Char} (visible : quote ≠ '\n') (c : Char) :
    '\n' ∉ quotedChar quote c := by
  -- Each character is written as it is, or by one of the escapes.
  fun_cases quotedChar quote c
  -- Only the quote and the backslash are set behind a backslash as they are.
  case case1 marked =>
    have apart : '\n' ≠ c := by
      rintro rfl
      simp [visible.symm] at marked
    simp [apart]
  case case2 => decide
  case case3 => decide
  case case4 => decide
  case case5 broken _ _ _ => simp [Ne.symm broken]
  all_goals simp [lineBreak_notMem_hexDigits]

/-- A quoted text stays on one line, whatever is quoted. -/
theorem isOneLine_quoted (text : String) : IsOneLine (quoted text) := by
  -- The quote is a single or a double one.
  have visible : quoteFor text.toList ≠ '\n' := by
    unfold quoteFor
    split <;> decide
  intro broken
  simp only [quoted, String.toList_ofList, List.mem_cons, List.mem_append, List.mem_flatMap,
    List.not_mem_nil, or_false] at broken
  -- A line break would have to be one of the quotes, or come from between them.
  rcases broken with mark | ⟨c, -, inside⟩ | mark
  · exact visible mark.symm
  · exact lineBreak_notMem_quotedChar visible c inside
  · exact visible mark.symm

end DeliveryRules
