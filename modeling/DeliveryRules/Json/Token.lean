import DeliveryRules.Number.Decimal
import DeliveryRules.Text.Hex
import DeliveryRules.Value.Basic

/-! The tokens of JSON text: marks, strings and words, each cut from the characters in one pass. -/

namespace DeliveryRules

/-- Why a text in some notation gives no value. -/
inductive TextError
  | malformed
  | numeral (reason : NumeralError)
  -- Half a character in a string. Texts hold whole ones here, so the text is not read any further.
  | halfCharacter
  -- What the reader of another notation ends with and does not explain.
  | unexplained
deriving DecidableEq

namespace Json

/-- A piece of JSON text; a string or a word may turn out to stand for nothing. -/
inductive Token
  | openList
  | closeList
  | openObject
  | closeObject
  | comma
  | colon
  | text (content : Except TextError String)
  | scalar (value : Except TextError Value)

/-- The piece at which a text can be cut no further. -/
def Token.broken : Token := .scalar (.error .malformed)

/-- A number in JSON notation: no needless leading zero, and a fraction or exponent in full. -/
def numberOf? (word : List Char) : Option Value :=
  let unsigned := if word.head? = some '-' then word.drop 1 else word
  let padded := unsigned.head? = some '0' && (unsigned.drop 1).head?.any isAsciiDigit
  if padded then none
  else (Decimal.ofText? word).map fun decimal =>
    if word.any fun c => c = '.' || c = 'e' || c = 'E' then .float decimal.toBinary64
    else
      let whole := Int.ofNat decimal.coefficient
      .int (if decimal.negative then -whole else whole)

/-- The value of a word that has a name of its own. -/
def namedValue? (name : String) : Option Value :=
  if name = "null" then some .null
  else if name = "true" then some (.bool true)
  else if name = "false" then some (.bool false)
  else none

/-- The value of a word that stands outside strings, numbers of any length being read. -/
def wordValue? (word : List Char) : Option Value :=
  let name := String.ofList word
  match namedValue? name with
  | some value => some value
  | none =>
    if name = "NaN" then some (.float .nan)
    else if name = "Infinity" then some (.float (.infinity false))
    else if name = "-Infinity" then some (.float (.infinity true))
    else numberOf? word

/-- Whether characters behind an integer make it a float: a fraction or an exponent in full. -/
def makesFloat (behind : List Char) : Bool :=
  match behind with
  | '.' :: places => places.head?.any isAsciiDigit
  | c :: exponent =>
    let isSigned := exponent.head?.any fun sign => sign = '+' || sign = '-'
    (c = 'e' || c = 'E') &&
      (if isSigned then exponent.drop 1 else exponent).head?.any isAsciiDigit
  | [] => false

/-- Whether a word begins with an integer that is too long to be read, whatever is behind it. -/
def beginsWithLongInteger (word : List Char) : Bool :=
  let unsigned := if word.head? = some '-' then word.drop 1 else word
  -- A zero in front is a number by itself.
  unsigned.head? != some '0' && digitLimit < (unsigned.takeWhile isAsciiDigit).length &&
    !makesFloat (unsigned.dropWhile isAsciiDigit)

/-- What a word that stands outside strings is read as. -/
def wordValue (word : List Char) : Except TextError Value :=
  match wordValue? word with
  | some (.int n) => (NumeralError.guard (isShort n) (Value.int n)).mapError .numeral
  | some value => .ok value
  -- A word is read from the left, so the integer that it begins with comes first.
  | none => .error (if beginsWithLongInteger word then .numeral .tooManyDigits else .malformed)

/-- The character a one-letter escape stands for. -/
def escaped? (c : Char) : Option Char :=
  if c = '"' || c = '\\' || c = '/' then some c
  else if c = 'n' then some '\n'
  else if c = 'r' then some '\r'
  else if c = 't' then some '\t'
  else if c = 'b' then some '\x08'
  else if c = 'f' then some '\x0c'
  else none

/-- The part of a string read so far, last character first, and a high half awaiting its low one. -/
structure Partial where
  characters : List Char
  high : Option Nat
  -- Whether a half has been read that the other one did not come to.
  isHalved : Bool

namespace Partial

/-- A string of which nothing has been read. -/
def start : Partial := ⟨[], none, false⟩

/-- Whether some half is alone if nothing more is read. -/
def hasHalf (part : Partial) : Bool := part.isHalved || part.high.isSome

/-- A character put after those read. -/
def push (part : Partial) (c : Char) : Partial := ⟨c :: part.characters, none, part.hasHalf⟩

/-- A sixteen-bit unit put after those read, two halves making one character. -/
def pushUnit (part : Partial) (unit : Nat) : Partial :=
  match part.high with
  | some high =>
    if 0xDC00 ≤ unit && unit < 0xE000 then
      let c := Char.ofNat (0x10000 + (high - 0xD800) * 0x400 + (unit - 0xDC00))
      { part with characters := c :: part.characters, high := none }
    else if 0xD800 ≤ unit && unit < 0xDC00 then ⟨part.characters, some unit, true⟩
    else part.push (Char.ofNat unit)
  | none =>
    if 0xD800 ≤ unit && unit < 0xDC00 then { part with high := some unit }
    else if 0xDC00 ≤ unit && unit < 0xE000 then { part with isHalved := true }
    else part.push (Char.ofNat unit)

/-- The whole string, once its closing quote is reached. -/
def finish (part : Partial) : Except TextError String :=
  if part.hasHalf then .error .halfCharacter else .ok (String.ofList part.characters.reverse)

end Partial

/-- How much of an escape has been read after its backslash. -/
inductive Escape
  | letter
  | unit (value count : Nat)

/-- Where a character of an escape leads: on into it, or back to the string that it adds to. -/
inductive EscapeStep
  | ongoing (escape : Escape)
  | complete (part : Partial)

/-- One character of an escape in a string, or nothing if there is no such escape. -/
def Escape.read (part : Partial) (escape : Escape) (c : Char) : Option EscapeStep :=
  match escape with
  | .letter =>
    if c = 'u' then some (.ongoing (.unit 0 0))
    else (escaped? c).map fun plain => .complete (part.push plain)
  | .unit value count =>
    (hexValue? c).map fun digit =>
      let total := value * 16 + digit
      if count = 3 then .complete (part.pushUnit total) else .ongoing (.unit total (count + 1))

/-- The token of a single character that separates others. -/
def mark? (c : Char) : Option Token :=
  if c = '[' then some .openList
  else if c = ']' then some .closeList
  else if c = '\x7b' then some .openObject
  else if c = '\x7d' then some .closeObject
  else if c = ',' then some .comma
  else if c = ':' then some .colon
  else none

/-- Whether a character only separates tokens. -/
def isBlank (c : Char) : Bool := c = ' ' || c = '\t' || c = '\n' || c = '\r'

/-- Where the scanner stands: outside strings, perhaps in a word, or in a string or an escape. -/
inductive ScanState
  | outside (reversed : List Char)
  | inside (part : Partial)
  | escape (part : Partial) (escape : Escape)

/-- The word read so far, if there is one, in front of the tokens after it. -/
def withWord (reversed : List Char) (tokens : List Token) : List Token :=
  if reversed.isEmpty then tokens else .scalar (wordValue reversed.reverse) :: tokens

/-- The tokens of the characters that remain, up to where they can be cut no further. -/
def scanFrom : ScanState → List Char → List Token
  | .outside reversed, [] => withWord reversed []
  | .inside _, [] | .escape _ _, [] => [.broken]
  -- A word ends at the first character that can begin or separate another token.
  | .outside reversed, c :: rest =>
    if isBlank c then withWord reversed (scanFrom (.outside []) rest)
    else if c = '"' then withWord reversed (scanFrom (.inside .start) rest)
    else match mark? c with
      | some token => withWord reversed (token :: scanFrom (.outside []) rest)
      | none => scanFrom (.outside (c :: reversed)) rest
  | .inside part, c :: rest =>
    if c = '"' then .text part.finish :: scanFrom (.outside []) rest
    else if c = '\\' then scanFrom (.escape part .letter) rest
    -- Control characters have to be escaped.
    else if c.toNat < 0x20 then [.broken]
    else scanFrom (.inside (part.push c)) rest
  | .escape part escape, c :: rest =>
    match escape.read part c with
    | none => [.broken]
    | some (.ongoing further) => scanFrom (.escape part further) rest
    | some (.complete longer) => scanFrom (.inside longer) rest

/-- The tokens of a text. -/
def scan (text : String) : List Token := scanFrom (.outside []) text.toList

end Json

end DeliveryRules
