import DeliveryRules.Value.Display

/-! What can be wrong with the structure of a condition, where it is wrong, and how that is told. -/

namespace DeliveryRules

/-- One step down a tree: the argument at an index under an operator's tag. -/
structure Step where
  tag : String
  index : Nat
deriving DecidableEq

/-- A place in a tree: the steps down from the root, and perhaps a tag of the node reached. -/
structure Location where
  steps : List Step
  tag : Option String
deriving DecidableEq

namespace Location

/-- The root of a tree. -/
def root : Location := ⟨[], none⟩

/-- The argument of the node at a place. -/
def argument (location : Location) (tag : String) (index : Nat) : Location :=
  ⟨location.steps ++ [⟨tag, index⟩], none⟩

/-- The operator key of the node at a place. -/
def under (location : Location) (tag : String) : Location := ⟨location.steps, some tag⟩

/-- A place as text: a dollar for the root, a dot before each tag, indexes in brackets. -/
def text (location : Location) : String :=
  let step (s : Step) := "." ++ s.tag ++ "[" ++ numeral s.index ++ "]"
  "$" ++ String.join (location.steps.map step) ++
    (location.tag.map ("." ++ ·)).getD ""

end Location

/-- A fault in the structure of a condition. -/
inductive StructureError
  -- The place is known while a document is read, and not while a built condition is evaluated.
  | tooDeep (limit : Int) (location : Option Location)
  | listNode (location : Location)
  | strangeNode (location : Location) (kind : String)
  | keyCount (location : Location) (keys : List String)
  | pathNotText (location : Option Location) (path : Value)
  | argumentCount (location : Location) (operator : Operator) (arity : Nat) (found : Option Nat)
  | noOperands (location : Location) (connective : Connective)
  | unknownOperator (location : Location) (tag : String)
  | emptyJunction (connective : Connective)
  | notBuilt (kind : String)

/-- Texts in the order of their code points. -/
def sortedTexts (texts : List String) : List String :=
  texts.mergeSort fun a b => a < b || a == b

namespace StructureError

/-- Whether a fault is only that a tree is nested too deeply. -/
def isDepth : StructureError → Bool
  | .tooDeep .. => true
  | _ => false

/-- Whether a fault can be told: the numbers that its report would show are short enough. -/
def isTellable : StructureError → Bool
  | .tooDeep limit _ => isShort limit
  | .pathNotText _ path => path.isWritable
  | _ => true

/-- A fault as a sentence. -/
def message : StructureError → String
  | .tooDeep limit _ => "Condition tree exceeds maximum depth of " ++ signedNumeral limit
  | .listNode _ => "Arrays are not valid condition nodes"
  | .strangeNode _ kind => "Unsupported condition node type: " ++ kind
  | .keyCount _ keys =>
    "Condition node must have exactly one operator key, found " ++ numeral keys.length
  | .pathNotText .. => "Field reference path must be a string"
  | .argumentCount _ operator arity found =>
    "Operator '" ++ operator.tag ++ "' requires exactly " ++ numeral arity ++ " arguments, got " ++
      (found.map numeral).getD "non-list"
  | .noOperands _ connective =>
    "Operator '" ++ connective.tag ++ "' requires a non-empty list of conditions"
  | .unknownOperator _ tag => "Unknown operator: " ++ quoted tag
  | .emptyJunction connective =>
    "Operator '" ++ connective.tag ++ "' requires at least one condition"
  | .notBuilt kind => "Unsupported condition node: " ++ kind

/-- The place of a fault as a detail of its report. -/
def node (location : Location) : String × Value := ("node", .text location.text)

/-- The further facts that a report of a fault carries. -/
def details : StructureError → Members
  | .tooDeep limit location =>
    (location.map fun place => [node place]).getD [] ++ [("max_depth", .int limit)]
  | .listNode location => [node location]
  | .strangeNode location _ => [node location]
  | .keyCount location keys => [node location, ("keys", .list ((sortedTexts keys).map .text))]
  | .pathNotText location path =>
    (location.map fun place => [node place]).getD [] ++ [("path", .text path.display)]
  | .argumentCount location operator _ _ => [node location, ("operator", .text operator.tag)]
  | .noOperands location _ => [node location]
  | .unknownOperator location tag => [node location, ("operator", .text tag)]
  | .emptyJunction connective => [("operator", .text connective.tag)]
  | .notBuilt _ => []

end StructureError

end DeliveryRules
