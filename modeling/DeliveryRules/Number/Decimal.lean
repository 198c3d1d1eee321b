import DeliveryRules.Number.Binary64
import DeliveryRules.Text.Numeral

/-! Decimal numbers: reading their text, writing them with or without an exponent. -/

namespace DeliveryRules

/-- A signed whole coefficient times a power of ten. -/
structure Decimal where
  negative : Bool
  coefficient : Nat
  exponent : Int
deriving DecidableEq

namespace Decimal

/-- The digits of the coefficient. -/
def digits (d : Decimal) : List Char := digitsOf d.coefficient

/-- The place of the point, counted from the left of the digits. -/
def pointPlace (d : Decimal) : Int := Int.ofNat d.digits.length + d.exponent

/-- The sign as written: only a minus shows. -/
def sign (d : Decimal) : List Char := if d.negative then ['-'] else []

/-- A run of zeros. -/
def zeros (count : Nat) : List Char := List.replicate count '0'

/-- The digits with a point among them, and zeros where the point lies outside them. -/
def positional (d : Decimal) : List Char :=
  let ds := d.digits
  match d.pointPlace with
  | .ofNat place =>
    if place = 0 then '0' :: '.' :: ds
    -- A number without a fraction is written without a point.
    else if ds.length ≤ place then ds ++ zeros (place - ds.length)
    else ds.take place ++ '.' :: ds.drop place
  | .negSucc before => '0' :: '.' :: (zeros (before + 1) ++ ds)

/-- Plain decimal text, which never shows an exponent. -/
def plain (d : Decimal) : String := String.ofList (d.sign ++ d.positional)

/-- A whole number with at least two digits. -/
def twoDigits (n : Nat) : List Char :=
  if n < 10 then '0' :: digitsOf n else digitsOf n

/-- One digit before the point, and the power of ten after an `e` with its sign. -/
def scientific (d : Decimal) : List Char :=
  let power := d.pointPlace - 1
  let mark := if power < 0 then '-' else '+'
  let tail := 'e' :: mark :: twoDigits power.natAbs
  match d.digits with
  | [] => tail
  | [digit] => digit :: tail
  | digit :: rest => digit :: '.' :: (rest ++ tail)

/-- Short text: positional up to sixteen whole digits and down to four leading zeros. -/
def short (d : Decimal) : String :=
  let power := d.pointPlace - 1
  let body :=
    if power < -4 || 16 ≤ power then d.scientific
    -- A number without a fraction still shows that it is not a whole-number value.
    else if d.exponent < 0 then d.positional
    else d.positional ++ ['.', '0']
  String.ofList (d.sign ++ body)

/-- The nearest binary number, out-of-range magnitudes going to zero or infinity. -/
def toBinary64 (d : Decimal) : Binary64 :=
  if d.coefficient = 0 then .zero d.negative
  -- Past these places every digit string lies beyond the range, whatever its digits.
  else if 310 < d.pointPlace then .infinity d.negative
  else if d.pointPlace < -330 then .zero d.negative
  else match d.exponent with
    | .ofNat up => .ofRatio d.negative (d.coefficient * tenTo up) 1
    | .negSucc down => .ofRatio d.negative d.coefficient (tenTo (down + 1))

/-- The leading run of ASCII digits and what follows it. -/
def spanDigits (text : List Char) : List Char × List Char :=
  (text.takeWhile isAsciiDigit, text.dropWhile isAsciiDigit)

/-- The exponent written after a mantissa: none at all, or an `e` with a whole number. -/
def exponentOf? : List Char → Option Int
  | [] => some 0
  | mark :: rest =>
    if mark = 'e' ∨ mark = 'E' then
      let (negative, digits) :=
        match rest with
        | '-' :: tail => (true, tail)
        | '+' :: tail => (false, tail)
        | tail => (false, tail)
      if digits.isEmpty || !digits.all isAsciiDigit then none
      else
        let power := Int.ofNat (ofDigits digits)
        some (if negative then -power else power)
    else none

/-- A decimal read from text: sign, whole digits, optional fraction, optional exponent. -/
def ofText? (text : List Char) : Option Decimal :=
  let (negative, unsigned) :=
    match text with
    | '-' :: rest => (true, rest)
    | rest => (false, rest)
  let (whole, afterWhole) := spanDigits unsigned
  if whole.isEmpty then none
  else
    match afterWhole with
    | '.' :: rest =>
      let (fraction, afterFraction) := spanDigits rest
      if fraction.isEmpty then none
      else (exponentOf? afterFraction).map fun power =>
        ⟨negative, ofDigits (whole ++ fraction), power - Int.ofNat fraction.length⟩
    | rest => (exponentOf? rest).map fun power => ⟨negative, ofDigits whole, power⟩

end Decimal

end DeliveryRules
