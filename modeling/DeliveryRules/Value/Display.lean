import DeliveryRules.Number.Shortest
import DeliveryRules.Text.Quoted
import DeliveryRules.Value.Basic

/-!
The notation in which messages show values: quoted text, named truth values and conditions.

What is shown is told apart from whether it can be: a number that is too long has no text.
-/

namespace DeliveryRules

/-- The name of a comparison in the notation of messages. -/
def Comparator.displayName : Comparator → String
  | .greater => "GT"
  | .less => "LT"
  | .atLeast => "GTE"
  | .atMost => "LTE"
  | .equal => "EQ"
  | .unequal => "NE"

/-- A comparison in the notation of messages: its name, then its tag. -/
def Comparator.display (comparator : Comparator) : String :=
  "<ComparisonOperator." ++ comparator.displayName ++ ": " ++ quoted comparator.tag ++ ">"

/-- Texts separated by commas. -/
def commaSeparated (texts : List String) : String := ", ".intercalate texts

/-- The elements of a tuple between parentheses, a lone one keeping a comma after it. -/
def parenthesised : List String → String
  | [one] => "(" ++ one ++ ",)"
  | many => "(" ++ commaSeparated many ++ ")"

mutual

/-- A value in the notation of messages. -/
def Value.display : Value → String
  | .null => "None"
  | .bool true => "True"
  | .bool false => "False"
  | .int n => signedNumeral n
  | .float x => x.text
  | .text content => quoted content
  | .bytes octets => quotedBytes octets
  | .list items => "[" ++ commaSeparated (displayItems items) ++ "]"
  | .tuple items => parenthesised (displayItems items)
  | .object members => "\x7b" ++ commaSeparated (displayMembers members) ++ "\x7d"
  | .condition built => built.display
termination_by structural value => value

/-- A built condition in the notation of messages: its kind, then its parts by name. -/
def Condition.display : Condition → String
  | .literal content => "Literal(value=" ++ content.display ++ ")"
  | .field path => "FieldRef(path=" ++ path.display ++ ")"
  | .comparison comparator left right =>
    "Comparison(operator=" ++ comparator.display ++ ", left=" ++ left.display ++
      ", right=" ++ right.display ++ ")"
  | .unchecked operator left right =>
    "Comparison(operator=" ++ operator.display ++ ", left=" ++ left.display ++
      ", right=" ++ right.display ++ ")"
  | .junction .all operands =>
    "LogicalAnd(children=" ++ parenthesised (displayItems operands) ++ ")"
  | .junction .any operands =>
    "LogicalOr(children=" ++ parenthesised (displayItems operands) ++ ")"
  | .branch test accepted rejected =>
    "Branch(test=" ++ test.display ++ ", then=" ++ accepted.display ++
      ", otherwise=" ++ rejected.display ++ ")"
termination_by structural condition => condition

/-- The elements of a sequence in the notation of messages. -/
def displayItems : List Value → List String
  | [] => []
  | item :: rest => item.display :: displayItems rest
termination_by structural items => items

/-- The members of an object in the notation of messages. -/
def displayMembers : List (String × Value) → List String
  | [] => []
  | (key, value) :: rest => (quoted key ++ ": " ++ value.display) :: displayMembers rest
termination_by structural members => members

end

mutual

/-- Whether every number in a value is short enough to be turned into text. -/
def Value.isWritable : Value → Bool
  | .int n => isShort n
  | .list items | .tuple items => areWritable items
  | .object members => membersAreWritable members
  | .condition built => built.isWritable
  | _ => true
termination_by structural value => value

/-- Whether every number in a built condition is short enough to be turned into text. -/
def Condition.isWritable : Condition → Bool
  | .literal content => content.isWritable
  | .field path => path.isWritable
  | .comparison _ left right => left.isWritable && right.isWritable
  | .unchecked operator left right =>
    operator.isWritable && left.isWritable && right.isWritable
  | .junction _ operands => areWritable operands
  | .branch test accepted rejected =>
    test.isWritable && accepted.isWritable && rejected.isWritable
termination_by structural condition => condition

/-- Whether every number in the elements of a sequence is short enough. -/
def areWritable : List Value → Bool
  | [] => true
  | item :: rest => item.isWritable && areWritable rest
termination_by structural items => items

/-- Whether every number in the members of an object is short enough. -/
def membersAreWritable : List (String × Value) → Bool
  | [] => true
  | (_, value) :: rest => value.isWritable && membersAreWritable rest
termination_by structural members => members

end

/-- A value as part of a sentence: text stands for itself, anything else is displayed. -/
def Value.spoken : Value → String
  | .text content => content
  | value => value.display

end DeliveryRules
