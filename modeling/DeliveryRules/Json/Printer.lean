import DeliveryRules.Value.Display

/-! JSON text of values, on one line or indented, with or without characters beyond ASCII. -/

namespace DeliveryRules.Json

/-- How far a text leaves characters unescaped. -/
inductive Alphabet
  | unicode
  | ascii
deriving DecidableEq

/-- One sixteen-bit unit in its four-digit escape. -/
def unitEscape (unit : Nat) : List Char := '\\' :: 'u' :: hexDigits 4 unit

/-- A character in four-digit escapes: two of them beyond the basic plane. -/
def escape (c : Char) : List Char :=
  if c.toNat < 0x10000 then unitEscape c.toNat
  else
    -- The offset past the basic plane is split into a high and a low half of ten bits.
    let offset := c.toNat - 0x10000
    unitEscape (0xD800 + offset / 0x400) ++ unitEscape (0xDC00 + offset % 0x400)

/-- One character of a string. -/
def stringChar (alphabet : Alphabet) (c : Char) : List Char :=
  if c = '"' then ['\\', '"']
  else if c = '\\' then ['\\', '\\']
  else if c = '\n' then ['\\', 'n']
  else if c = '\r' then ['\\', 'r']
  else if c = '\t' then ['\\', 't']
  else if c = '\x08' then ['\\', 'b']
  else if c = '\x0c' then ['\\', 'f']
  else if c.toNat < 0x20 then escape c
  else if alphabet = .ascii && 0x7E < c.toNat then escape c
  else [c]

/-- A string between double quotes. -/
def string (alphabet : Alphabet) (content : String) : String :=
  String.ofList ('"' :: (content.toList.flatMap (stringChar alphabet) ++ ['"']))

/-- A floating-point number, the three without digits going by their names. -/
def float : Binary64 → String
  | .nan => "NaN"
  | .infinity true => "-Infinity"
  | .infinity false => "Infinity"
  | .finite x => x.shortest.short

mutual

/-- A value on one line without blanks; what has no JSON form becomes a string that displays it. -/
def compact (alphabet : Alphabet) : Value → String
  | .null => "null"
  | .bool true => "true"
  | .bool false => "false"
  | .int n => signedNumeral n
  | .float x => float x
  | .text content => string alphabet content
  | .bytes octets => string alphabet (quotedBytes octets)
  | .condition built => string alphabet built.display
  | .list items => "[" ++ ",".intercalate (compactItems alphabet items) ++ "]"
  | .tuple items => "[" ++ ",".intercalate (compactItems alphabet items) ++ "]"
  | .object members =>
    "\x7b" ++ ",".intercalate (compactMembers alphabet members) ++ "\x7d"
termination_by structural value => value

/-- The elements of a sequence, each on one line. -/
def compactItems (alphabet : Alphabet) : List Value → List String
  | [] => []
  | item :: rest => compact alphabet item :: compactItems alphabet rest
termination_by structural items => items

/-- The members of an object, each on one line. -/
def compactMembers (alphabet : Alphabet) : List (String × Value) → List String
  | [] => []
  | (key, value) :: rest =>
    (string alphabet key ++ ":" ++ compact alphabet value) :: compactMembers alphabet rest
termination_by structural members => members

end

/-- A line break and the indentation of a depth, two blanks to the level. -/
def lineBreak (depth : Nat) : String :=
  String.ofList ('\n' :: List.replicate (2 * depth) ' ')

/-- Parts between brackets, one to a line; without parts the brackets close at once. -/
def block (depth : Nat) (opening closing : String) (parts : List String) : String :=
  if parts.isEmpty then opening ++ closing
  else
    let inner := lineBreak (depth + 1)
    opening ++ inner ++ ("," ++ inner).intercalate parts ++ lineBreak depth ++ closing

mutual

/-- A value laid out over lines, its contents indented below the given depth. -/
def indentedFrom (alphabet : Alphabet) (depth : Nat) : Value → String
  | .list items => block depth "[" "]" (indentedItems alphabet (depth + 1) items)
  | .tuple items => block depth "[" "]" (indentedItems alphabet (depth + 1) items)
  | .object members =>
    block depth "\x7b" "\x7d" (indentedMembers alphabet (depth + 1) members)
  | value => compact alphabet value
termination_by structural value => value

/-- The elements of a sequence, laid out over lines. -/
def indentedItems (alphabet : Alphabet) (depth : Nat) : List Value → List String
  | [] => []
  | item :: rest => indentedFrom alphabet depth item :: indentedItems alphabet depth rest
termination_by structural items => items

/-- The members of an object, laid out over lines. -/
def indentedMembers (alphabet : Alphabet) (depth : Nat) : List (String × Value) → List String
  | [] => []
  | (key, value) :: rest =>
    (string alphabet key ++ ": " ++ indentedFrom alphabet depth value) ::
      indentedMembers alphabet depth rest
termination_by structural members => members

end

/-- A value laid out over lines. -/
def indented (alphabet : Alphabet) (value : Value) : String := indentedFrom alphabet 0 value

end DeliveryRules.Json
