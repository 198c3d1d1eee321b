import DeliveryRules.Path.Lexeme

/-! The grammar of field paths, and the keys and indexes a path is made of. -/

namespace DeliveryRules

/-- A step of a path: into a member, into an element, or into every element at once. -/
inductive Segment
  | key (name : String)
  | index (n : Nat)
  | wildcard
deriving DecidableEq

/-- What may come next in a path: a reading from left to right ends well only after a whole step. -/
inductive PathState
  | start
  | inKey
  | afterBracket
  | afterDot
  | broken
deriving DecidableEq

namespace PathState

/-- One piece of a path read. -/
def next : PathState → Lexeme → PathState
  -- A bracket pair can open a path or follow a whole step, but not a dot.
  | .start, .bracket _ | .inKey, .bracket _ | .afterBracket, .bracket _ => .afterBracket
  | .start, .char c => if isKeyChar c then .inKey else .broken
  | .inKey, .char c => if isKeyChar c then .inKey else if c = '.' then .afterDot else .broken
  | .afterBracket, .char c => if c = '.' then .afterDot else .broken
  | .afterDot, .char c => if isKeyChar c then .inKey else .broken
  | _, _ => .broken

/-- Whether a path may end here; only the empty path ends at its start. -/
def accepts : PathState → Bool
  | .start | .inKey | .afterBracket => true
  | _ => false

end PathState

/-- Whether a path is empty, or keys and bracket pairs with a dot before each later key. -/
def isWellFormedPath (path : String) : Bool :=
  ((Lexeme.scan path.toList).foldl PathState.next .start).accepts

/-- The key read so far as a segment, if there is one. -/
def pendingKey (reversed : List Char) : List Segment :=
  if reversed.isEmpty then [] else [.key (String.ofList reversed.reverse)]

/-- The segment of a bracket pair. -/
def bracketSegment (digits : List Char) : Segment :=
  if digits.isEmpty then .wildcard else .index (digitsValue digits)

/-- The segments of the remaining pieces, after the characters of a key still being read. -/
def segmentsFrom : List Char → List Lexeme → List Segment
  | key, [] => pendingKey key
  | key, .bracket digits :: rest =>
    pendingKey key ++ bracketSegment digits :: segmentsFrom [] rest
  | key, .char c :: rest =>
    if isKeyChar c then segmentsFrom (c :: key) rest
    -- Dots and stray brackets only end a key.
    else pendingKey key ++ segmentsFrom [] rest

/-- The segments of a path; in a malformed path whatever fits no segment is passed over. -/
def segmentsOf (path : String) : List Segment := segmentsFrom [] (Lexeme.scan path.toList)

/-- Whether every index of a path has few enough digits to be read. -/
def hasShortIndexes (path : String) : Bool := (Lexeme.scan path.toList).all Lexeme.isShort

/-- A path cut into its segments, unless one of them is an index that is too long to be read. -/
def splitPath (path : String) : Except NumeralError (List Segment) :=
  NumeralError.guard (hasShortIndexes path) (segmentsOf path)

end DeliveryRules
