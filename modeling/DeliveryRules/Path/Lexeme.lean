import DeliveryRules.Text.Digit

/-! Field paths cut into brackets and single characters, the form all readings of a path share. -/

namespace DeliveryRules

/-- A piece of a path: a bracket pair with the digits inside it, or one other character. -/
inductive Lexeme
  | bracket (digits : List Char)
  | char (c : Char)
deriving DecidableEq

namespace Lexeme

/-- The pieces of an opening bracket that never closed after its digits. -/
def unclosed (digits : List Char) : List Lexeme := .char '[' :: digits.map .char

/-- The pieces of the remaining characters, after the digits of a bracket that may still close. -/
def scanFrom : Option (List Char) → List Char → List Lexeme
  | none, [] => []
  | some digits, [] => unclosed digits
  | none, c :: rest =>
    if c = '[' then scanFrom (some []) rest else .char c :: scanFrom none rest
  | some digits, c :: rest =>
    if c = ']' then .bracket digits :: scanFrom none rest
    else if isDecimalDigit c then scanFrom (some (digits ++ [c])) rest
    -- The bracket cannot close any more, but this character may open another one.
    else if c = '[' then unclosed digits ++ scanFrom (some []) rest
    else unclosed digits ++ .char c :: scanFrom none rest

/-- The pieces of a path. -/
def scan (path : List Char) : List Lexeme := scanFrom none path

/-- A piece as it was written. -/
def written : Lexeme → List Char
  | .bracket digits => '[' :: (digits ++ [']'])
  | .char c => [c]

/-- Whether the digits of a piece, if there are any, are few enough to be read as a number. -/
def isShort : Lexeme → Bool
  | .bracket digits => digits.length ≤ digitLimit
  | .char _ => true

/-- A piece without the index a bracket pair may hold. -/
def erased : Lexeme → Lexeme
  | .bracket _ => .bracket []
  | other => other

end Lexeme

/-- Whether a character can be part of a key. -/
def isKeyChar (c : Char) : Bool := c != '.' && c != '[' && c != ']'

/-- A path with every index taken out of its brackets. -/
def normalizePath (path : String) : String :=
  String.ofList ((Lexeme.scan path.toList).flatMap fun lexeme => lexeme.erased.written)

end DeliveryRules
