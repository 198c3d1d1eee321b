import DeliveryRules.Number.Binary64
import DeliveryRules.Text.Numeral

/-! Numbers written with exactly two places after the point. -/

namespace DeliveryRules

/-- A count of hundredths as text, the sign coming first. -/
def hundredths (negative : Bool) (count : Nat) : String :=
  let cents := digitsOf (count % 100)
  -- One digit of cents takes a zero before it.
  let places := if cents.length < 2 then '0' :: cents else cents
  (if negative then "-" else "") ++ numeral (count / 100) ++ "." ++ String.ofList places

/-- Two places after the point, the exact value rounded with ties to even. -/
def Binary64.fixed : Binary64 → String
  | .nan => "nan"
  | .infinity true => "-inf"
  | .infinity false => "inf"
  | .finite x =>
    let (numerator, denominator) := x.ratio
    hundredths x.negative (roundQuotient (numerator * 100) denominator)

end DeliveryRules
