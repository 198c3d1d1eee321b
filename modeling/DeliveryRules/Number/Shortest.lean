import DeliveryRules.Number.Decimal

/-! The decimal with the fewest digits that reads back as a given binary number. -/

namespace DeliveryRules.Binary64

namespace Finite

/-- The numbers that round to a finite one: its magnitude, and both ends of the interval. -/
structure Neighbourhood where
  value : Nat
  low : Nat
  high : Nat
  denominator : Nat
  closed : Bool

/-- The interval of magnitudes that round to a finite number, over one denominator. -/
def neighbourhood (x : Finite) : Neighbourhood :=
  let (unit, denominator) := scaleRatio 1 4 x.exponent
  let value := 4 * x.significand * unit
  -- Below a power of two the next number is only half as far away.
  let below := if x.significand = 1 <<< 52 ∧ x.exponent ≠ -1074 then unit else 2 * unit
  ⟨value, value - below, value + 2 * unit, denominator, x.significand % 2 == 0⟩

namespace Neighbourhood

/-- Whether a decimal magnitude rounds to the number of the neighbourhood. -/
def holds (n : Neighbourhood) (coefficient : Nat) (exponent : Int) : Bool :=
  -- Both sides are cleared of denominators before they are compared.
  let (left, scale) :=
    match exponent with
    | .ofNat up => (coefficient * tenTo up * n.denominator, 1)
    | .negSucc down => (coefficient * n.denominator, tenTo (down + 1))
  let low := n.low * scale
  let high := n.high * scale
  if n.closed then low ≤ left && left ≤ high else low < left && left < high

/-- The number of whole digits of the value, counted down past the point when it has none. -/
def magnitude (n : Neighbourhood) : Int :=
  -- A first estimate from the bit lengths misses by at most two.
  let bits := Int.ofNat n.value.log2 - Int.ofNat n.denominator.log2
  let estimate := Int.fdiv (bits * 30103) 100000
  let reaches (power : Int) : Bool :=
    match power with
    | .ofNat up => n.value < n.denominator * tenTo up
    | .negSucc down => n.value * tenTo (down + 1) < n.denominator
  ([-1, 0, 1, 2].map (estimate + ·)).find? reaches |>.getD (estimate + 3)

/-- The better neighbour of the value on a grid of decimals, if one rounds to it. -/
def onGrid? (n : Neighbourhood) (exponent : Int) : Option Nat :=
  let (numerator, denominator) :=
    match exponent with
    | .ofNat up => (n.value, n.denominator * tenTo up)
    | .negSucc down => (n.value * tenTo (down + 1), n.denominator)
  let floor := numerator / denominator
  let ceiling := floor + 1
  let twice := 2 * (numerator % denominator)
  -- A tie between the two neighbours goes to the even one.
  let preferFloor := twice < denominator || (twice == denominator && floor % 2 == 0)
  let (first, second) := if preferFloor then (floor, ceiling) else (ceiling, floor)
  if n.holds first exponent then some first
  else if n.holds second exponent then some second
  else none

/-- The first grid from the coarsest on with a decimal that reads back. -/
def search (n : Neighbourhood) (negative : Bool) (top : Int) : Nat → Nat → Decimal
  | digits, 0 => ⟨negative, n.value, top - Int.ofNat digits⟩
  | digits, more + 1 =>
    let exponent := top - Int.ofNat digits
    match n.onGrid? exponent with
    | some coefficient => ⟨negative, coefficient, exponent⟩
    | none => n.search negative top (digits + 1) more

end Neighbourhood

/-- A decimal without the zeros that end its coefficient. -/
def trim (d : Decimal) : Nat → Decimal
  | 0 => d
  | more + 1 =>
    if d.coefficient % 10 = 0 && d.coefficient != 0 then
      trim { d with coefficient := d.coefficient / 10, exponent := d.exponent + 1 } more
    else d

/-- The shortest decimal that reads back as a finite number. -/
def shortest (x : Finite) : Decimal :=
  if x.significand = 0 then ⟨x.negative, 0, 0⟩
  else
    let n := x.neighbourhood
    -- Seventeen digits always suffice, so the search ends inside its bound.
    let found := n.search x.negative n.magnitude 1 17
    trim found 17

/-- The plain decimal text of a finite number, whole numbers being written exactly. -/
def plain (x : Finite) : String :=
  if x.isInteger then signedNumeral x.toInt else x.shortest.plain

end Finite

/-- The short text of a number. -/
def text : Binary64 → String
  | .nan => "nan"
  | .infinity true => "-inf"
  | .infinity false => "inf"
  | .finite x => x.shortest.short

/-- A number read from its short text. -/
def ofText? (text : String) : Option Binary64 :=
  if text = "nan" then some .nan
  else if text = "inf" then some (.infinity false)
  else if text = "-inf" then some (.infinity true)
  else (Decimal.ofText? text.toList).map Decimal.toBinary64

end DeliveryRules.Binary64
