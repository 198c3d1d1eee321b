import DeliveryRules.Json.Token

/-! Values read from JSON text by a machine that keeps the containers still open on a stack. -/

namespace DeliveryRules.Json

/-- A container whose contents are still being read, last element first. -/
inductive Container
  | list (items : List Value)
  | object (members : List (String × Value))

/-- A container that waits for the value being read inside it. -/
inductive Frame
  | item (items : List Value)
  | member (members : List (String × Value)) (key : String)

/-- What the machine expects next, with the containers around it, innermost first. -/
inductive State
  | value (closable : Bool) (stack : List Frame)
  | key (closable : Bool) (members : List (String × Value)) (stack : List Frame)
  | colon (members : List (String × Value)) (key : String) (stack : List Frame)
  | after (container : Container) (stack : List Frame)
  | finished (value : Value)

/-- A value put into the innermost container, or the whole text when none is open. -/
def settle (value : Value) : List Frame → State
  | [] => .finished value
  | .item items :: stack => .after (.list (value :: items)) stack
  | .member members key :: stack => .after (.object ((key, value) :: members)) stack

/-- One token taken by the machine, which stops where the token cannot stand. -/
def step : State → Token → Except TextError State
  | .value _ stack, .openList => .ok (.value true (.item [] :: stack))
  | .value _ stack, .openObject => .ok (.key true [] stack)
  | .value _ stack, .text content => content.map fun content => settle (.text content) stack
  | .value _ stack, .scalar value => value.map fun value => settle value stack
  -- An empty list closes where its first element could have come.
  | .value true (.item [] :: stack), .closeList => .ok (settle (.list []) stack)
  | .key _ members stack, .text name => name.map fun name => .colon members name stack
  | .key true [] stack, .closeObject => .ok (settle (.object []) stack)
  | .colon members key stack, .colon => .ok (.value false (.member members key :: stack))
  | .after (.list items) stack, .comma => .ok (.value false (.item items :: stack))
  | .after (.list items) stack, .closeList => .ok (settle (.list items.reverse) stack)
  | .after (.object members) stack, .comma => .ok (.key false members stack)
  -- A key given twice keeps its first place and its last value.
  | .after (.object members) stack, .closeObject =>
    .ok (settle (.object (Members.ofList members.reverse)) stack)
  -- What a misplaced token would stand for is of no account.
  | _, _ => .error .malformed

/-- The value of a whole sequence of tokens. -/
def ofTokens (tokens : List Token) : Except TextError Value :=
  match tokens.foldlM step (.value false []) with
  | .ok (.finished value) => .ok value
  | .ok _ => .error .malformed
  | .error reason => .error reason

/-- The value of a text. -/
def read (text : String) : Except TextError Value := ofTokens (scan text)

end DeliveryRules.Json
