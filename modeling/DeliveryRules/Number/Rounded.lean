import DeliveryRules.Number.Shortest

/-! Numbers written with a chosen count of digits, the exact value being rounded once. -/

namespace DeliveryRules

/-- A way to write a number: with places after the point, with an exponent, or whichever suits. -/
inductive NumberStyle
  | fixed
  | scientific
  | general
deriving DecidableEq

/-- Digits with the last of them behind a point, which is left out where nothing follows it. -/
def pointed (keepPoint : Bool) (places : Nat) (digits : List Char) : List Char :=
  let padded := List.replicate (places + 1 - digits.length) '0' ++ digits
  let whole := padded.take (padded.length - places)
  let fraction := padded.drop (padded.length - places)
  if fraction.isEmpty && !keepPoint then whole else whole ++ '.' :: fraction

/-- A fraction without the zeros at its end, and without its point if it had only those. -/
def withoutZeros (written : List Char) : List Char :=
  if written.contains '.' then
    let short := written.reverse.dropWhile (· = '0')
    (if short.head? = some '.' then short.drop 1 else short).reverse
  else written

namespace Binary64.Finite

/-- The magnitude counted in units of a power of ten, a tie going to the even count. -/
def countOf (x : Finite) (exponent : Int) : Nat :=
  match exponent with
  | .ofNat up => roundQuotient x.ratio.1 (x.ratio.2 * tenTo up)
  | .negSucc down => roundQuotient (x.ratio.1 * tenTo (down + 1)) x.ratio.2

/-- The magnitude with so many places after the point. -/
def fixedText (x : Finite) (keepPoint : Bool) (places : Nat) : List Char :=
  pointed keepPoint places (digitsOf (x.countOf (-Int.ofNat places)))

/-- The magnitude as one digit before the point, so many after it, and a power of ten. -/
def scaled (x : Finite) (places : Nat) : Nat × Int :=
  if x.significand = 0 then (0, 0)
  else
    let power := x.neighbourhood.magnitude - 1
    let count := x.countOf (power - Int.ofNat places)
    -- Rounding up can carry into one more digit.
    if count = tenTo (places + 1) then (tenTo places, power + 1) else (count, power)

/-- The power of ten at the end of a number. -/
def powerText (power : Int) : List Char :=
  'e' :: (if power < 0 then '-' else '+') :: Decimal.twoDigits power.natAbs

/-- The magnitude with an exponent, and so many places before that. -/
def scientificText (x : Finite) (keepPoint : Bool) (places : Nat) : List Char :=
  let (count, power) := x.scaled places
  pointed keepPoint places (digitsOf count) ++ powerText power

/-- The magnitude with so many digits, whose exponent shows only if it is small or large. -/
def generalText (x : Finite) (keepPoint : Bool) (digits : Nat) : List Char :=
  let places := digits - 1
  let (count, power) := x.scaled places
  let trimmed (written : List Char) := if keepPoint then written else withoutZeros written
  if power < -4 || Int.ofNat digits ≤ power then
    trimmed (pointed keepPoint places (digitsOf count)) ++ powerText power
  else trimmed (x.fixedText keepPoint (Int.ofNat places - power).toNat)

/-- The magnitude in a notation with a precision, of which the general one takes at least one. -/
def roundedText (x : Finite) (style : NumberStyle) (keepPoint : Bool) (precision : Nat) :
    List Char :=
  match style with
  | .fixed => x.fixedText keepPoint precision
  | .scientific => x.scientificText keepPoint precision
  | .general => x.generalText keepPoint (if precision = 0 then 1 else precision)

end Binary64.Finite

end DeliveryRules
