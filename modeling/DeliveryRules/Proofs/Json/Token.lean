import DeliveryRules.Json.Printer
import DeliveryRules.Json.Token
import DeliveryRules.Proofs.Text.Hex

/-! Strings as they are written in JSON text are cut into the tokens of their contents. -/

namespace DeliveryRules.Json

/-- An escaped unit adds itself to the string that it stands in. -/
theorem scanFrom_unitEscape (part : Partial) {unit : Nat} (small : unit < 0x10000)
    (rest : List Char) :
    scanFrom (.inside part) (unitEscape unit ++ rest) =
      scanFrom (.inside (part.pushUnit unit)) rest := by
  -- The four digits are read one by one, and make the unit again.
  have first := hexValue?_digitChar (unit / 4096) (by omega)
  have second := hexValue?_digitChar (unit / 256 % 16) (by omega)
  have third := hexValue?_digitChar (unit / 16 % 16) (by omega)
  have fourth := hexValue?_digitChar (unit % 16) (by omega)
  have total : ((unit / 4096 * 16 + unit / 256 % 16) * 16 + unit / 16 % 16) * 16 + unit % 16 =
      unit := by omega
  simp [unitEscape, hexDigits_four small, scanFrom, Escape.read, first, second, third, fourth,
    total]

/-- The numbers of characters end with the seventeenth plane. -/
theorem toNat_lt (c : Char) : c.toNat < 0x110000 := by
  -- A character lies below the halves or between them and the end.
  rcases c.valid with low | ⟨_, high⟩
  · exact lt_trans low (by decide)
  · exact high

/-- The unit of a character of the basic plane adds the character. -/
theorem Partial.pushUnit_toNat {part : Partial} (settled : part.high = none) {c : Char} :
    part.pushUnit c.toNat = part.push c := by
  -- No character has the number of a half.
  have valid : c.toNat < 0xD800 ∨ 0xDFFF < c.toNat := by
    rcases c.valid with low | ⟨high, _⟩
    · exact .inl low
    · exact .inr high
  have notHigh : ¬(0xD800 ≤ c.toNat ∧ c.toNat < 0xDC00) := by omega
  have notLow : ¬(0xDC00 ≤ c.toNat ∧ c.toNat < 0xE000) := by omega
  simp [pushUnit, settled, notHigh, notLow, Char.ofNat_toNat]

/-- The two halves of a character beyond the basic plane add the character. -/
theorem Partial.pushUnit_halves {part : Partial} (settled : part.high = none) {c : Char}
    (beyond : 0x10000 ≤ c.toNat) :
    (part.pushUnit (0xD800 + (c.toNat - 0x10000) / 0x400)).pushUnit
      (0xDC00 + (c.toNat - 0x10000) % 0x400) = part.push c := by
  -- The first half waits for the second, and together they make the number again.
  have bound : c.toNat < 0x110000 := toNat_lt c
  have high : 0xD800 + (c.toNat - 0x10000) / 0x400 < 0xDC00 := by omega
  have low : 0xDC00 + (c.toNat - 0x10000) % 0x400 < 0xE000 := by omega
  have total : 0x10000 + (c.toNat - 0x10000) / 0x400 * 0x400 + (c.toNat - 0x10000) % 0x400 =
      c.toNat := by omega
  simp [pushUnit, push, hasHalf, settled, high, low, total, Char.ofNat_toNat]

/-- An escaped character adds itself to the string that it stands in. -/
theorem scanFrom_escape {part : Partial} (settled : part.high = none) (c : Char)
    (rest : List Char) :
    scanFrom (.inside part) (escape c ++ rest) = scanFrom (.inside (part.push c)) rest := by
  unfold escape
  split_ifs with basic
  -- Beyond the basic plane two escapes follow each other, a high half and a low one.
  · rw [scanFrom_unitEscape part basic, Partial.pushUnit_toNat settled]
  · have bound : c.toNat < 0x110000 := toNat_lt c
    simp only [List.append_assoc]
    rw [scanFrom_unitEscape part (by omega), scanFrom_unitEscape _ (by omega),
      Partial.pushUnit_halves settled (by omega)]

/-- Every character is written so that it adds itself to the string that it stands in. -/
theorem scanFrom_stringChar {part : Partial} (settled : part.high = none) (alphabet : Alphabet)
    (c : Char) (rest : List Char) :
    scanFrom (.inside part) (stringChar alphabet c ++ rest) =
      scanFrom (.inside (part.push c)) rest := by
  unfold stringChar
  split_ifs with quote backslash feed carriage tab back form control beyond
  -- The characters with a letter of their own come first, and are read letter by letter.
  rotate_left 7
  · exact scanFrom_escape settled c rest
  · exact scanFrom_escape settled c rest
  · simp [scanFrom, quote, backslash, control]
  all_goals
    subst c
    rfl

/-- What is written for the characters of a string is read as them, up to the closing quote. -/
theorem scanFrom_inside (alphabet : Alphabet) (content read rest : List Char) :
    scanFrom (.inside ⟨read, none, false⟩)
        (content.flatMap (stringChar alphabet) ++ '"' :: rest) =
      .text (.ok (String.ofList (read.reverse ++ content))) :: scanFrom (.outside []) rest := by
  -- What was read grows by each character, so it is generalised.
  induction content generalizing read with
  | nil => simp [scanFrom, Partial.finish, Partial.hasHalf]
  | cons c content ih =>
    have pushed : Partial.push ⟨read, none, false⟩ c = ⟨c :: read, none, false⟩ := rfl
    rw [List.flatMap_cons, List.append_assoc, scanFrom_stringChar rfl, pushed, ih]
    simp

/-- Where no word was begun, the tokens after it are all tokens. -/
@[simp] theorem withWord_nil (tokens : List Token) : withWord [] tokens = tokens := rfl

/-- A written string is a token of its own, whatever comes after it. -/
theorem scanFrom_string (alphabet : Alphabet) (content : String) (rest : List Char) :
    scanFrom (.outside []) ((string alphabet content).toList ++ rest) =
      .text (.ok content) :: scanFrom (.outside []) rest := by
  -- The opening quote begins a string of which nothing was read.
  have inside := scanFrom_inside alphabet content.toList [] rest
  simp only [List.reverse_nil, List.nil_append, String.ofList_toList] at inside
  simp [string, scanFrom, isBlank, Partial.start, inside]

end DeliveryRules.Json
