import DeliveryRules.Text.Digit

/-! Arguments of a command line told apart: options, operands and the separator between them. -/

namespace DeliveryRules.CommandLine

/-- An option that a command may take. -/
inductive Switch
  | help
  | verbose
  | category
  | json
deriving DecidableEq

/-- Whether an option is followed by a value. -/
def Switch.takesValue : Switch → Bool
  | .category => true
  | _ => false

/-- The options of a command under their names; only options without a value have short names. -/
abbrev Switches := List (String × Switch)

/-- What follows the name of an option inside the same argument. -/
inductive Attachment
  | nothing
  -- Text joined to a short name.
  | joined (text : String)
  -- Text after an equals sign.
  | assigned (text : String)
deriving DecidableEq

/-- What an argument is, given the options that are known. -/
inductive ArgumentKind
  | option (switch : Option Switch) (name : String) (attached : Attachment)
  | operand
  | separator
deriving DecidableEq

/-- An argument and what it is. -/
structure Argument where
  text : String
  kind : ArgumentKind
deriving DecidableEq

/-- Whether an argument is a negative number, which is an operand and no option. -/
def isNegativeNumber (text : String) : Bool :=
  let body := text.toList.drop 1
  let fraction := body.dropWhile isDecimalDigit
  match fraction with
  | [] => !body.isEmpty
  | '.' :: places => !places.isEmpty && places.all isDecimalDigit
  | _ => false

/-- An argument up to its first equals sign, and what follows the sign if there is one. -/
def splitAssigned (text : String) : String × Attachment :=
  let chars := text.toList
  let name := String.ofList (chars.takeWhile (· != '='))
  match chars.dropWhile (· != '=') with
  | [] => (name, .nothing)
  | _ :: value => (name, .assigned (String.ofList value))

/-- The options that an inexact name may stand for. -/
def abbreviated (switches : Switches) (text : String) : List ArgumentKind :=
  if text.startsWith "--" then
    -- A long name may be cut anywhere.
    let (start, attached) := splitAssigned text
    (switches.filter fun entry => entry.1.startsWith start).map fun entry =>
      .option (some entry.2) entry.1 attached
  else
    -- After a short name come further short names, or a value.
    let name := String.ofList (text.toList.take 2)
    (switches.filter fun entry => entry.1 == name).map fun entry =>
      .option (some entry.2) name (.joined (String.ofList (text.toList.drop 2)))

/-- What an argument before the separator is, or nothing if it may be one of several options. -/
def classify? (switches : Switches) (text : String) : Option ArgumentKind :=
  if !text.startsWith "-" || text = "-" then some .operand
  else
    match switches.lookup text with
    | some switch => some (.option (some switch) text .nothing)
    | none =>
      let (name, attached) := splitAssigned text
      match switches.lookup name with
      | some switch => some (.option (some switch) name attached)
      | none =>
        match abbreviated switches text with
        | [kind] => some kind
        | [] =>
          if isNegativeNumber text || text.toList.contains ' ' then some .operand
          else some (.option none text .nothing)
        | _ => none

/-- Arguments with what they are; behind the separator all of them are operands. -/
def classifyAll? (switches : Switches) : List String → Option (List Argument)
  | [] => some []
  | text :: rest =>
    if text = "--" then
      some (⟨text, .separator⟩ :: rest.map fun operand => ⟨operand, .operand⟩)
    else do
      let kind ← classify? switches text
      let tail ← classifyAll? switches rest
      return ⟨text, kind⟩ :: tail

end DeliveryRules.CommandLine
