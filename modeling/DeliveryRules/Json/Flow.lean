import DeliveryRules.Json.Parser
import DeliveryRules.Text.Line
import DeliveryRules.Value.Display

/-!
JSON text read by the rules of YAML's flow style. Fewer characters are allowed, tabs separate
nothing, a key stands on one line with its colon, a string may go on over several lines, and a
word that is no number is text.
-/

namespace DeliveryRules.Json.Flow

/-- Whether a character may stand in a text at all. -/
def isAllowed (c : Char) : Bool :=
  c = '\t' || c = '\n' || c = '\r' || c = '\x85' ||
  (0x20 ≤ c.toNat && c.toNat ≤ 0x7E) ||
  (0xA0 ≤ c.toNat && c.toNat ≤ 0xFFFD) || 0x10000 ≤ c.toNat

/-- Whether a number is taken for a float: it needs a point, and a sign on an exponent. -/
def isFloat (word : List Char) : Bool :=
  let exponent := word.dropWhile fun c => c != 'e' && c != 'E'
  word.contains '.' &&
    (exponent.isEmpty || (exponent.drop 1).head?.any fun c => c = '+' || c = '-')

/-- The value of a word that stands outside strings. -/
def wordValue (word : List Char) : Value :=
  let name := String.ofList word
  match namedValue? name with
  | some value => value
  | none =>
    match numberOf? word with
    | some (.float x) => if isFloat word then .float x else .text name
    | some value => value
    | none => .text name

/-- The word read so far, if there is one, in front of the tokens after it. -/
def withWord (reversed : List Char) (tokens : List Token) : List Token :=
  if reversed.isEmpty then tokens else .scalar (.ok (wordValue reversed.reverse)) :: tokens

/-- The number of characters since the last string began, as long as its first line goes on. -/
abbrev Distance := Option Nat

/-- The distance behind one more character. -/
def Distance.past (distance : Distance) (c : Char) : Distance :=
  if isLineBreak c then none else distance.map (· + 1)

/-- The longest way from the quote that begins a key to its colon. -/
def keyReach : Nat := 1024

/-- Whether a colon at a distance still belongs to the string there. -/
def Distance.isInReach (distance : Distance) : Bool := distance.any (· ≤ keyReach)

/-- Where the scanner stands: outside strings, perhaps in a word, or in a string or an escape. -/
inductive ScanState
  | outside (reversed : List Char)
  | inside (part : Partial) (gap : Gap)
  | escape (part : Partial) (escape : Escape)

/-- A string with a gap put after what was read, folded. -/
def closeGap (part : Partial) (gap : Gap) : Partial := gap.folded.foldl Partial.push part

/-- The tokens of the characters that remain, or nothing if they cannot be cut into tokens. -/
def scanFrom (distance : Distance) : ScanState → List Char → Option (List Token)
  | .outside reversed, [] => some (withWord reversed [])
  | .inside _ _, [] | .escape _ _, [] => none
  | .outside reversed, c :: rest =>
    if c = ' ' || isLineBreak c then
      (scanFrom (distance.past c) (.outside []) rest).map (withWord reversed)
    else if c = '\t' then none
    else if c = '"' then
      (scanFrom (some 1) (.inside .start .empty) rest).map (withWord reversed)
    else if c = ':' && !distance.isInReach then none
    else match mark? c with
      | some token =>
        (scanFrom (distance.past c) (.outside []) rest).map fun tokens =>
          withWord reversed (token :: tokens)
      | none => scanFrom (distance.past c) (.outside (c :: reversed)) rest
  | .inside part gap, c :: rest =>
    if isSpace c then scanFrom (distance.past c) (.inside part (gap.addSpace c)) rest
    else if isLineBreak c then
      -- A document ends even inside a string.
      if beginsWithDocumentMark rest then none
      else scanFrom (distance.past c) (.inside part (gap.addBreak c)) rest
    else if c = '"' then
      (scanFrom (distance.past c) (.outside []) rest).map
        (.text (closeGap part gap).finish :: ·)
    else if c = '\\' then scanFrom (distance.past c) (.escape (closeGap part gap) .letter) rest
    else scanFrom (distance.past c) (.inside ((closeGap part gap).push c) .empty) rest
  | .escape part escape, c :: rest =>
    match escape.read part c with
    | none => none
    | some (.ongoing further) => scanFrom (distance.past c) (.escape part further) rest
    | some (.complete longer) => scanFrom (distance.past c) (.inside longer .empty) rest

/-- The tokens of a text. -/
def scan (text : String) : Option (List Token) :=
  let characters := text.toList
  if characters.all isAllowed then
    scanFrom none (.outside []) (withLineFeeds (· = '\x85') (withoutMark characters))
  else none

/-- The value of a text, a text without tokens being null; its numbers are only read at the end. -/
def read (text : String) : Except TextError Value :=
  match scan text with
  | none => .error .malformed
  | some [] => .ok .null
  | some tokens => do
    let value ← ofTokens tokens
    (NumeralError.guard value.isWritable value).mapError .numeral

end DeliveryRules.Json.Flow
