import DeliveryRules.Catalog.Packaged
import DeliveryRules.CommandLine.Outcome
import DeliveryRules.CommandLine.Usage

/-! The program: arguments and inputs are read, a command is carried out, and its output printed. -/

namespace DeliveryRules

open CommandLine

/-- The inputs of a command, as far as they can be read. -/
def gather (command : Command) : IO Inputs := do
  let names := command.inputNames
  let standard ← if names.contains standardName then (← IO.getStdin).readToEnd else pure ""
  let files ← names.filterMapM fun (name : String) => do
    match ← (IO.FS.readBinFile name).toBaseIO with
    | .ok octets => return some (name, octets)
    | .error _ => return none
  return ⟨files, standard⟩

/-- The help printed to a stream. -/
def printUsage (stream : IO.FS.Stream) : IO Unit := stream.putStr (unlines usage)

/-- A command carried out on the files it names; the output is in UTF-8 and holds everything. -/
def perform (command : Command) : IO UInt32 := do
  let outcome := command.execute Limits.standard .packaged (← gather command) fun _ => true
  (← IO.getStdout).putStr outcome.output
  (← IO.getStderr).putStr (unlines outcome.complaints)
  match outcome.ending with
  | .exited code => return code.toUInt32
  | .stopped reason => throw (IO.userError reason.text)

end DeliveryRules

/-- The program on its arguments. -/
def main (arguments : List String) : IO UInt32 := do
  match DeliveryRules.CommandLine.Invocation.ofTexts arguments with
  | .help => DeliveryRules.printUsage (← IO.getStdout); return 0
  | .misuse => DeliveryRules.printUsage (← IO.getStderr); return 2
  | .noCommand => DeliveryRules.printUsage (← IO.getStdout); return 1
  | .run command => DeliveryRules.perform command
