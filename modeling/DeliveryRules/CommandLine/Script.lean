import DeliveryRules.Catalog.Files
import DeliveryRules.Json.Parser
import DeliveryRules.Rule.Error

/-! The steps that commands are made of: they read named inputs and print lines, until one fails. -/

namespace DeliveryRules.CommandLine

/-- What a command can read: named files, and a standard input that can be read only once. -/
structure Inputs where
  files : Files
  standard : String

/-- Why an input cannot be used. -/
inductive InputError
  | unreadable (reason : FileError)
  | undecoded (reason : TextError)
deriving DecidableEq

/-- Why a command cannot be carried out to its end. -/
inductive CommandError
  | input (reason : InputError)
  | rule (reason : RuleError)
  -- A line with characters that the output cannot hold.
  | unprintable (line : String)

namespace InputError

/-- Whether a failure to use an input is one that commands are prepared for. -/
def isForeseen : InputError → Bool
  | .unreadable reason => reason.isForeseen
  | .undecoded reason => reason = .malformed

/-- What is said of an input that cannot be used, on one line. -/
def text : InputError → String
  | .unreadable reason => reason.text
  | .undecoded _ => "The input is not a JSON document"

end InputError

namespace CommandError

/-- Whether a failure is one that commands are prepared for; any other stops the program. -/
def isForeseen : CommandError → Bool
  | .input reason => reason.isForeseen
  | .rule reason => reason.report?.isSome
  | .unprintable _ => false

/-- What a command complains about, on one line. -/
def text : CommandError → String
  | .input reason => reason.text
  | .rule reason => (reason.report?.map Report.text).getD "The rule cannot be used"
  | .unprintable _ => "The output cannot hold a character"

end CommandError

/-- The name that stands for the standard input. -/
def standardName : String := "-"

namespace Inputs

/-- A text as a document. -/
def document (text : String) : Except InputError Value := (Json.read text).mapError .undecoded

/-- The document under a name, and the inputs that are left. -/
def read (inputs : Inputs) (name : String) : Except InputError Value × Inputs :=
  if name = standardName then (document inputs.standard, { inputs with standard := "" })
  else ((inputs.files.read name).mapError .unreadable >>= document, inputs)

end Inputs

/-- Where a command works: what is left to be read, and the output with the lines printed to it. -/
structure Console where
  inputs : Inputs
  -- The characters of the encoding that the output is written in.
  canHold : Char → Bool
  printed : List String

/-- A console with all inputs left and nothing printed. -/
def Console.start (inputs : Inputs) (canHold : Char → Bool) : Console := ⟨inputs, canHold, []⟩

/-- Steps taken at a console, which keeps what was done before one of them fails. -/
abbrev Script := ExceptT CommandError (StateM Console)

/-- Whether an output that can hold some characters can hold a line. -/
def canHoldLine (canHold : Char → Bool) (line : String) : Bool := line.toList.all canHold

/-- The document under a name, taken off the inputs. -/
def readDocument (name : String) : Script Value := do
  let console ← get
  let read := console.inputs.read name
  set { console with inputs := read.2 }
  ofExcept (read.1.mapError CommandError.input)

/-- A line put at the end of the output. -/
def print (line : String) : Script Unit := do
  let console ← get
  if canHoldLine console.canHold line then
    set { console with printed := console.printed ++ [line] }
  else throw (.unprintable line)

/-- Lines printed one after the other. -/
def printAll : List String → Script Unit
  | [] => return
  | line :: rest => do
    print line
    printAll rest

/-- The result of an operation on a rule, whose failure is one of the command. -/
def ofRule {α : Type} (outcome : Except RuleError α) : Script α :=
  ofExcept (outcome.mapError CommandError.rule)

end DeliveryRules.CommandLine
