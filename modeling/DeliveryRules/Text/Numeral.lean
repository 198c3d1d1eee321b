/-!
Whole numbers written in decimal digits, and digits read back.

Neither is done beyond a fixed number of digits, since it would take too long. The conversions
themselves are total, and what converts a number checks its length first.
-/

namespace DeliveryRules

/-- The decimal digits of a whole number, most significant first. -/
def digitsOf (n : Nat) : List Char := Nat.toDigits 10 n

/-- The decimal text of a whole number. -/
def numeral (n : Nat) : String := String.ofList (digitsOf n)

/-- The decimal text of a whole number, with a sign only when it is negative. -/
def signedNumeral (n : Int) : String :=
  if n < 0 then "-" ++ numeral n.natAbs else numeral n.natAbs

/-- The most digits that a number may have to be turned into text, or to be read from text. -/
def digitLimit : Nat := 4300

/-- Why a number is not turned into text, or not read from text. -/
inductive NumeralError
  | tooManyDigits
deriving DecidableEq

/-- What needs numbers to be short, if they are. -/
def NumeralError.guard {α : Type} (areShort : Bool) (content : α) : Except NumeralError α :=
  if areShort then .ok content else .error .tooManyDigits

/-- Whether a whole number has few enough digits, its sign not being one of them. -/
def isShort (n : Int) : Bool := (digitsOf n.natAbs).length ≤ digitLimit

/-- Whether a character is one of the ten ASCII digits. -/
def isAsciiDigit (c : Char) : Bool := '0' ≤ c && c ≤ '9'

/-- The whole number that a run of ASCII digits stands for. -/
def ofDigits (digits : List Char) : Nat :=
  digits.foldl (fun total c => total * 10 + (c.toNat - '0'.toNat)) 0

/-- A power of ten. -/
def tenTo (k : Nat) : Nat := Nat.pow 10 k

end DeliveryRules
