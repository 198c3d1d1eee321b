import DeliveryRules.Text.Numeral

/-!
Patterns of messages: text with marks in it. A mark starts with a percent sign and ends with the
letter of a form; between the two it may name a member and say how its place is laid out.
-/

namespace DeliveryRules.Log

/-- The member of an object that a mark asks for, or a name that was never closed. -/
inductive MarkKey
  | none
  | named (name : String)
  | unclosed
deriving DecidableEq

/-- A size in a mark: left open, written in digits, or an argument of its own. -/
inductive MarkSize
  | unset
  | given (size : Nat)
  | argument
deriving DecidableEq

/-- What is put in the place of a mark and how; without a form the pattern ended too early. -/
structure Mark where
  key : MarkKey
  flushLeft : Bool
  signed : Bool
  spaced : Bool
  alternate : Bool
  zeroFilled : Bool
  width : MarkSize
  precision : MarkSize
  form : Option Char
deriving DecidableEq

/-- A mark of which only the percent sign is known. -/
def Mark.blank : Mark := ⟨.none, false, false, false, false, false, .unset, .unset, none⟩

/-- A piece of a pattern. -/
inductive Piece
  | char (c : Char)
  | mark (mark : Mark)
deriving DecidableEq

/-- What may come next in a pattern. -/
inductive PatternState
  | text
  | opened
  | key (depth : Nat) (reversed : List Char)
  | flags (mark : Mark)
  | width (mark : Mark) (size : Nat)
  | point (mark : Mark)
  | places (mark : Mark)
  | precision (mark : Mark) (size : Nat)
  | sizeLetter (mark : Mark)
  | form (mark : Mark)

/-- A size with one more digit. -/
def MarkSize.extend (size : Nat) (digit : Char) : Nat := size * 10 + ofDigits [digit]

namespace Mark

/-- The last character of a mark. -/
def readForm (mark : Mark) (c : Char) : PatternState × List Piece :=
  (.text, [.mark { mark with form := some c }])

/-- A character where a size letter may stand, which says nothing. -/
def readSize (mark : Mark) (c : Char) : PatternState × List Piece :=
  if c = 'h' || c = 'l' || c = 'L' then (.form mark, []) else mark.readForm c

/-- A character where the precision may begin. -/
def readPoint (mark : Mark) (c : Char) : PatternState × List Piece :=
  if c = '.' then (.places { mark with precision := .given 0 }, []) else mark.readSize c

/-- A character where the width may begin. -/
def readWidth (mark : Mark) (c : Char) : PatternState × List Piece :=
  if c = '*' then (.point { mark with width := .argument }, [])
  else if isAsciiDigit c then (.width mark (ofDigits [c]), [])
  else mark.readPoint c

/-- A character where a flag may stand. -/
def readFlag (mark : Mark) (c : Char) : PatternState × List Piece :=
  if c = '-' then (.flags { mark with flushLeft := true }, [])
  else if c = '+' then (.flags { mark with signed := true }, [])
  else if c = ' ' then (.flags { mark with spaced := true }, [])
  else if c = '#' then (.flags { mark with alternate := true }, [])
  else if c = '0' then (.flags { mark with zeroFilled := true }, [])
  else mark.readWidth c

end Mark

namespace PatternState

/-- One character of a pattern, and the pieces it completes. -/
def step : PatternState → Char → PatternState × List Piece
  | .text, c => if c = '%' then (.opened, []) else (.text, [.char c])
  -- A doubled percent sign is one.
  | .opened, c =>
    if c = '%' then (.text, [.char '%'])
    else if c = '(' then (.key 1 [], [])
    else Mark.blank.readFlag c
  | .key depth reversed, c =>
    -- Parentheses inside a name have to be balanced.
    if c = ')' && depth ≤ 1 then
      (.flags { Mark.blank with key := .named (String.ofList reversed.reverse) }, [])
    else if c = ')' then (.key (depth - 1) (c :: reversed), [])
    else if c = '(' then (.key (depth + 1) (c :: reversed), [])
    else (.key depth (c :: reversed), [])
  | .flags mark, c => mark.readFlag c
  | .width mark size, c =>
    if isAsciiDigit c then (.width mark (MarkSize.extend size c), [])
    else Mark.readPoint { mark with width := .given size } c
  | .point mark, c => mark.readPoint c
  | .places mark, c =>
    if c = '*' then (.sizeLetter { mark with precision := .argument }, [])
    else if isAsciiDigit c then (.precision mark (ofDigits [c]), [])
    else mark.readSize c
  | .precision mark size, c =>
    if isAsciiDigit c then (.precision mark (MarkSize.extend size c), [])
    else Mark.readSize { mark with precision := .given size } c
  | .sizeLetter mark, c => mark.readSize c
  | .form mark, c => mark.readForm c

/-- The pieces left where a pattern ends, which are marks without a form. -/
def finish : PatternState → List Piece
  | .text => []
  | .opened => [.mark .blank]
  | .key _ _ => [.mark { Mark.blank with key := .unclosed }]
  | .width mark size => [.mark { mark with width := .given size }]
  | .precision mark size => [.mark { mark with precision := .given size }]
  | .flags mark | .point mark | .places mark | .sizeLetter mark | .form mark => [.mark mark]

end PatternState

/-- The pieces of the remaining characters of a pattern. -/
def piecesFrom : PatternState → List Char → List Piece
  | state, [] => state.finish
  | state, c :: rest =>
    let (next, pieces) := state.step c
    pieces ++ piecesFrom next rest

/-- The pieces of a pattern. -/
def piecesOf (pattern : String) : List Piece := piecesFrom .text pattern.toList

end DeliveryRules.Log
