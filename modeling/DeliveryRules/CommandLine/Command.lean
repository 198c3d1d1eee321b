import DeliveryRules.Catalog.Category
import DeliveryRules.CommandLine.Argument

/-! Commands and the argument lists that spell them. -/

namespace DeliveryRules.CommandLine

/-- A command with everything it needs to know; rules and data are named as input files. -/
inductive Command
  | catalog
  | paths (category : Category)
  | validate (rule : String) (category : Category)
  | simulate (rule : String) (category : Category)
  | preview (rule : String) (category : Category) (asJson : Bool)
  | explain (rule : String)
  | evaluate (rule data : String)
deriving DecidableEq

/-- What an argument list asks for. -/
inductive Invocation
  | help
  | misuse
  | noCommand
  | run (command : Command)
deriving DecidableEq

/-- The names of the commands. -/
inductive CommandName
  | catalog
  | paths
  | validate
  | simulate
  | preview
  | explain
  | evaluate
deriving DecidableEq

namespace CommandName

/-- Every command, in the order in which they are listed to readers. -/
def all : List CommandName :=
  [.catalog, .paths, .validate, .simulate, .preview, .explain, .evaluate]

/-- The word for a command. -/
def word : CommandName → String
  | .catalog => "catalog"
  | .paths => "paths"
  | .validate => "validate"
  | .simulate => "simulate"
  | .preview => "preview"
  | .explain => "explain"
  | .evaluate => "evaluate"

/-- The command a word names. -/
def ofWord? (word : String) : Option CommandName := all.find? (·.word == word)

/-- The options of a command. -/
def switches (name : CommandName) : Switches :=
  let help := [("-h", Switch.help), ("--help", Switch.help)]
  match name with
  | .validate | .simulate => help ++ [("--category", .category)]
  | .preview => help ++ [("--category", .category), ("--json", .json)]
  | _ => help

/-- How many operands a command takes. -/
def arity : CommandName → Nat
  | .catalog => 0
  | .evaluate => 2
  | _ => 1

/-- Whether a text may be an operand of a command. -/
def admits (name : CommandName) (operand : String) : Bool :=
  match name with
  | .paths => (Category.ofWord? operand).isSome
  | _ => true

end CommandName

/-- The options that stand before the name of a command. -/
def leadingSwitches : Switches :=
  [("-h", .help), ("--help", .help), ("-v", .verbose), ("--verbose", .verbose)]

/-- What has been read of the arguments of a command. -/
structure Reading where
  operands : List String
  category : Category
  asJson : Bool
  -- Something was passed over that belongs to nothing.
  surplus : Bool
  -- The argument just read was taken as an operand.
  afterOperand : Bool

namespace Reading

/-- A reading of which nothing has been read. -/
def start : Reading := ⟨[], .providerSelection, false, false, false⟩

/-- An operand taken. -/
def take (reading : Reading) (operand : String) : Reading :=
  { reading with operands := reading.operands ++ [operand], afterOperand := true }

/-- An argument passed over. -/
def skip (reading : Reading) : Reading :=
  { reading with surplus := true, afterOperand := false }

/-- An option without a value applied. -/
def apply (reading : Reading) (switch : Switch) : Reading :=
  { reading with asJson := reading.asJson || switch = .json, afterOperand := false }

/-- A category given. -/
def setCategory (reading : Reading) (category : Category) : Reading :=
  { reading with category := category, afterOperand := false }

end Reading

/-- The options that letters joined to a short name stand for, and whether letters are left over. -/
def cluster? (switches : Switches) : List Char → Option (List Switch × Bool)
  | [] => some ([], false)
  | letter :: rest =>
    if letter = '-' || letter = '=' then none
    else
      match switches.lookup (String.ofList ['-', letter]) with
      -- From an unknown letter on, nothing is read any more.
      | none => some ([], true)
      | some switch => (cluster? switches rest).map fun more => (switch :: more.1, more.2)

/-- The options without values that one argument stands for, and whether part of it is left over. -/
def flags? (switches : Switches) (switch : Switch) (attached : Attachment) :
    Option (List Switch × Bool) :=
  match attached with
  | .nothing => some ([switch], false)
  | .joined letters =>
    (cluster? switches letters.toList).map fun more => (switch :: more.1, more.2)
  -- An option that takes no value cannot be given one.
  | .assigned _ => none

/-- How reading the arguments of a command ends. -/
inductive ReadingEnd
  | help
  | misuse
  | read (reading : Reading)

/-- Whether an argument is an operand. -/
def isOperand (argument : Argument) : Bool := argument.kind = .operand

/-- The arguments of a command read from left to right, up to a call for help or a mistake. -/
def readArguments (name : CommandName) (reading : Reading) : List Argument → ReadingEnd
  | [] => .read reading
  | argument :: rest =>
    let isOpen := reading.operands.length < name.arity
    match argument.kind with
    | .operand =>
      if !isOpen then readArguments name reading.skip rest
      else if name.admits argument.text then readArguments name (reading.take argument.text) rest
      else .misuse
    | .separator =>
      -- A separator counts for nothing beside an operand that is taken, and as surplus elsewhere.
      let beside := reading.afterOperand || (isOpen && rest.head?.any isOperand)
      readArguments name (if beside then reading else reading.skip) rest
    | .option none _ _ => readArguments name reading.skip rest
    | .option (some switch) _ attached =>
      if switch.takesValue then
        match attached with
        | .assigned word | .joined word =>
          match Category.ofWord? word with
          | some category => readArguments name (reading.setCategory category) rest
          | none => .misuse
        | .nothing =>
          match rest with
          | [] => .misuse
          | value :: more =>
            -- A value cannot look like an option, nor be the separator.
            match if isOperand value then Category.ofWord? value.text else none with
            | some category => readArguments name (reading.setCategory category) more
            | none => .misuse
      else
        match flags? name.switches switch attached with
        | none => .misuse
        | some (flags, isLeftOver) =>
          if flags.contains .help then .help
          else
            let applied := flags.foldl Reading.apply reading
            readArguments name (if isLeftOver then applied.skip else applied) rest

namespace Command

/-- The command that a complete reading amounts to. -/
def ofReading? (name : CommandName) (reading : Reading) : Option Command :=
  match name, reading.operands with
  | .catalog, [] => some .catalog
  | .paths, [word] => (Category.ofWord? word).map .paths
  | .validate, [rule] => some (.validate rule reading.category)
  | .simulate, [rule] => some (.simulate rule reading.category)
  | .preview, [rule] => some (.preview rule reading.category reading.asJson)
  | .explain, [rule] => some (.explain rule)
  | .evaluate, [rule, data] => some (.evaluate rule data)
  | _, _ => none

end Command

namespace Invocation

/-- What the arguments after the name of a command ask for. -/
def ofArguments (name : CommandName) (surplus : Bool) (texts : List String) : Invocation :=
  match classifyAll? name.switches texts with
  | none => .misuse
  | some arguments =>
    match readArguments name .start arguments with
    | .help => .help
    | .misuse => .misuse
    | .read reading =>
      if surplus || reading.surplus then .misuse
      else
        match Command.ofReading? name reading with
        | some command => .run command
        | none => .misuse

/-- The arguments up to the name of a command read, something having been passed over or not. -/
def ofLeading (surplus : Bool) : List Argument → Invocation
  | [] => if surplus then .misuse else .noCommand
  | argument :: rest =>
    match argument.kind with
    | .operand =>
      match CommandName.ofWord? argument.text with
      | some name => ofArguments name surplus (rest.map (·.text))
      | none => .misuse
    -- A separator cannot come before the name of a command.
    | .separator => .misuse
    | .option none _ _ => ofLeading true rest
    | .option (some switch) _ attached =>
      match flags? leadingSwitches switch attached with
      | none => .misuse
      | some (flags, isLeftOver) =>
        if flags.contains .help then .help else ofLeading (surplus || isLeftOver) rest

/-- What an argument list asks for. -/
def ofTexts (texts : List String) : Invocation :=
  match classifyAll? leadingSwitches texts with
  | none => .misuse
  | some arguments => ofLeading false arguments

end Invocation

end DeliveryRules.CommandLine
