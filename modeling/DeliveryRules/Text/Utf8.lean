/-! Text read from bytes in UTF-8, with a replacement mark for whatever makes no character. -/

namespace DeliveryRules

/-- The length of the character that a leading byte announces, and its first payload bits. -/
def leadingByte? (byte : Nat) : Option (Nat × Nat) :=
  if byte < 0x80 then some (1, byte)
  else if 0xC2 ≤ byte && byte < 0xE0 then some (2, byte - 0xC0)
  else if 0xE0 ≤ byte && byte < 0xF0 then some (3, byte - 0xE0)
  else if 0xF0 ≤ byte && byte < 0xF5 then some (4, byte - 0xF0)
  else none

/-- A character of which some bytes have been read. -/
structure OpenCharacter where
  payload : Nat
  missing : Nat
  -- The bytes that may come next, which rules out overlong forms and halves of pairs.
  least : Nat
  greatest : Nat

/-- A character opened by its leading byte. -/
def OpenCharacter.ofLeading (byte length payload : Nat) : OpenCharacter :=
  { payload := payload
    missing := length - 1
    least := if byte = 0xE0 then 0xA0 else if byte = 0xF0 then 0x90 else 0x80
    greatest := if byte = 0xED then 0x9F else if byte = 0xF4 then 0x8F else 0xBF }

/-- The characters of bytes, with a replacement mark for each run that makes no character. -/
def utf8From (current : Option OpenCharacter) (bytes : List UInt8) : List Char :=
  match bytes with
  | [] => if current.isSome then ['\uFFFD'] else []
  | byte :: rest =>
    let n := byte.toNat
    let fresh (before : List Char) : List Char :=
      match leadingByte? n with
      | some (1, payload) => before ++ Char.ofNat payload :: utf8From none rest
      | some (length, payload) => before ++ utf8From (some (.ofLeading n length payload)) rest
      | none => before ++ '\uFFFD' :: utf8From none rest
    match current with
    | none => fresh []
    | some partly =>
      if partly.least ≤ n && n ≤ partly.greatest then
        let payload := partly.payload * 64 + (n - 0x80)
        if partly.missing = 1 then Char.ofNat payload :: utf8From none rest
        else utf8From (some ⟨payload, partly.missing - 1, 0x80, 0xBF⟩) rest
      -- A byte that cannot continue a character may begin another one.
      else fresh ['\uFFFD']

/-- The characters of bytes. -/
def utf8Characters (bytes : List UInt8) : List Char := utf8From none bytes

end DeliveryRules
