/-! Binary floating-point numbers of sixty-four bits, each held as the exact value it stands for. -/

namespace DeliveryRules

/-- A significand and an exponent name a finite number in its one canonical form. -/
def isCanonical (significand : Nat) (exponent : Int) : Bool :=
  -- Fifty-three bits hold the significand, and only the least exponent admits a short one.
  significand < 1 <<< 53 && -1074 ≤ exponent && exponent ≤ 971 &&
    (1 <<< 52 ≤ significand || exponent == -1074)

/-- A finite number is a signed significand times a power of two. -/
structure Binary64.Finite where
  negative : Bool
  significand : Nat
  exponent : Int
  canonical : isCanonical significand exponent = true
deriving DecidableEq

/-- A binary floating-point number, zero keeping its sign. -/
inductive Binary64
  | nan
  | infinity (negative : Bool)
  | finite (number : Binary64.Finite)
deriving DecidableEq

/-- The quotient rounded to the nearest whole number, a tie going to the even one. -/
def roundQuotient (numerator denominator : Nat) : Nat :=
  let quotient := numerator / denominator
  let twice := 2 * (numerator % denominator)
  if twice < denominator then quotient
  else if denominator < twice then quotient + 1
  else quotient + quotient % 2

/-- A ratio multiplied by a power of two, kept as a ratio of whole numbers. -/
def scaleRatio (numerator denominator : Nat) (power : Int) : Nat × Nat :=
  match power with
  | .ofNat up => (numerator <<< up, denominator)
  | .negSucc down => (numerator, denominator <<< (down + 1))

/-- Whether a ratio lies below a power of two. -/
def belowPower (numerator denominator : Nat) (power : Int) : Bool :=
  let scaled := scaleRatio numerator denominator (-power)
  scaled.1 < scaled.2

namespace Binary64

/-- Zero with the given sign. -/
def zero (negative : Bool) : Binary64 := .finite ⟨negative, 0, -1074, rfl⟩

/-- The exponent whose significands have fifty-three bits near a positive ratio. -/
def unitExponent (numerator denominator : Nat) : Int :=
  -- The two bit lengths place the ratio between adjacent powers of four.
  let guess : Int := Int.ofNat numerator.log2 - Int.ofNat denominator.log2 - 52
  let tight := if belowPower numerator denominator (guess + 52) then guess - 1 else guess
  if tight < -1074 then -1074 else tight

/-- The number with these parts, which is infinite when no exponent is large enough. -/
def pack (negative : Bool) (significand : Nat) (exponent : Int) : Binary64 :=
  if fits : isCanonical significand exponent = true then
    .finite ⟨negative, significand, exponent, fits⟩
  else .infinity negative

/-- The number nearest to a ratio, a tie going to the even significand. -/
def ofRatio (negative : Bool) (numerator denominator : Nat) : Binary64 :=
  if numerator = 0 then zero negative
  else
    let exponent := unitExponent numerator denominator
    let scaled := scaleRatio numerator denominator (-exponent)
    let significand := roundQuotient scaled.1 scaled.2
    -- Rounding up can carry into one more bit than a significand holds.
    if significand = 1 <<< 53 then pack negative (1 <<< 52) (exponent + 1)
    else pack negative significand exponent

/-- The number nearest to a whole number. -/
def ofInt (n : Int) : Binary64 := ofRatio (n < 0) n.natAbs 1

namespace Finite

/-- The magnitude of a finite number as a ratio of whole numbers. -/
def ratio (x : Finite) : Nat × Nat := scaleRatio x.significand 1 x.exponent

/-- Whether a finite number has no fractional part. -/
def isInteger (x : Finite) : Bool := x.ratio.1 % x.ratio.2 == 0

/-- The whole part of a finite number, with its sign. -/
def toInt (x : Finite) : Int :=
  let whole := Int.ofNat (x.ratio.1 / x.ratio.2)
  if x.negative then -whole else whole

end Finite

/-- Whether a number counts as nothing: either zero, and no other number. -/
def isZero : Binary64 → Bool
  | .finite x => x.significand == 0
  | _ => false

/-- The quotient by a positive whole number, rounded once. -/
def divideBy (x : Binary64) (divisor : Nat) : Binary64 :=
  match x with
  | .finite x => ofRatio x.negative x.ratio.1 (x.ratio.2 * divisor)
  | other => other

end Binary64

/-- A place on the number line, with one place beyond each end of it. -/
inductive Place
  | below
  | at (coefficient exponent : Int)
  | above
deriving DecidableEq

namespace Place

/-- A whole number multiplied by a power of two. -/
def widen (coefficient : Int) (power : Nat) : Int := coefficient * Int.ofNat (1 <<< power)

/-- Which of two whole numbers is the smaller. -/
def orderOf (left right : Int) : Ordering :=
  if left < right then .lt else if left = right then .eq else .gt

/-- Two places in their exact order, nothing being rounded. -/
def order : Place → Place → Ordering
  | .below, .below => .eq
  | .below, _ => .lt
  | .above, .above => .eq
  | .above, _ => .gt
  | .at _ _, .below => .gt
  | .at _ _, .above => .lt
  | .at a e, .at b f =>
    -- Both coefficients are brought to the smaller of the two exponents.
    if e ≤ f then orderOf a (widen b (f - e).toNat)
    else orderOf (widen a (e - f).toNat) b

end Place

/-- A number a rule can compare: a whole number of any size, or a floating-point one. -/
inductive Number
  | int (n : Int)
  | float (x : Binary64)
deriving DecidableEq

namespace Number

/-- The exact place of a number, which only the undefined number lacks. -/
def place? : Number → Option Place
  | .int n => some (.at n 0)
  | .float .nan => none
  | .float (.infinity true) => some .below
  | .float (.infinity false) => some .above
  | .float (.finite x) =>
    let coefficient := Int.ofNat x.significand
    some (.at (if x.negative then -coefficient else coefficient) x.exponent)

/-- The exact order of two numbers, if both have a place. -/
def order? (left right : Number) : Option Ordering := do
  let a ← left.place?
  let b ← right.place?
  return a.order b

end Number

end DeliveryRules
