import DeliveryRules.CommandLine.Command
import DeliveryRules.CommandLine.Script
import DeliveryRules.Rule.Preview

/-! Commands carried out: what they print, what they complain about and how they end. -/

namespace DeliveryRules.CommandLine

/-- A line that lists an error. -/
def errorLine (error : String) : String := "  - " ++ error

/-- A line of one character over and over. -/
def ruler (c : Char) (width : Nat) : String := String.ofList (List.replicate width c)

/-- The value of a rule on a document, as a line. -/
def evaluationLine (limit : Int) (tree document : Value) : Except RuleError String :=
  match DeliveryRules.evaluate limit tree document with
  | .ok result => RuleError.ofNumeral (renderLiteral limit result)
  | .error reason => .error reason.toRuleError

namespace Command

/-- The inputs that a command names, in the order in which it reads them. -/
def inputNames : Command → List String
  | .catalog | .paths _ => []
  | .validate rule _ | .simulate rule _ | .preview rule _ _ | .explain rule => [rule]
  | .evaluate rule data => [rule, data]

/-- The steps of a command with a catalog and a depth limit, down to its exit code. -/
def run (limit : Int) (catalog : Catalog) : Command → Script Nat
  | .catalog => do
    print catalog.serialize
    return 0
  | .paths category => do
    printAll (sortedPaths (catalog.pathsFor category))
    return 0
  | .validate rule category => do
    let tree ← readDocument rule
    let verdict := DeliveryRules.validate limit catalog category tree
    if verdict.isValid then
      print "VALID"
      return 0
    else
      print "INVALID"
      print (ruler '-' 40)
      printAll (verdict.errors.map errorLine)
      return 1
  | .explain rule => do
    let tree ← readDocument rule
    let sentence ← ofRule (explanationOf (.uniform limit) tree)
    print sentence
    return 0
  | .simulate rule category => do
    let tree ← readDocument rule
    let lines ← ofRule (DeliveryRules.simulate limit limit category tree)
    printAll lines
    return 0
  | .preview rule category asJson => do
    let tree ← readDocument rule
    let shown ← ofRule (previewRule (.uniform limit) catalog category tree)
    if asJson then
      print (Json.indented .unicode shown.toValue)
    else
      print "RULE PREVIEW"
      print (ruler '=' 60)
      print shown.explanation
      print ""
      print ("Valid: " ++ if shown.verdict.isValid then "yes" else "no")
      printAll (shown.verdict.errors.map errorLine)
      print ""
      print "Simulation:"
      printAll (shown.simulation.map ("  " ++ ·))
    return if shown.verdict.isValid then 0 else 1
  | .evaluate rule data => do
    -- Both inputs are read before the rule is looked at.
    let tree ← readDocument rule
    let document ← readDocument data
    let line ← ofRule (evaluationLine limit tree document)
    print line
    return 0

end Command

/-- How a command ends. -/
inductive Ending
  | exited (code : Nat)
  -- The program is stopped by a failure that no part of it expects.
  | stopped (reason : CommandError)

/-- What a command leaves behind. -/
structure Outcome where
  ending : Ending
  output : String
  complaints : List String

/-- Lines as one text. -/
def unlines (lines : List String) : String := String.join (lines.map (· ++ "\n"))

/-- What a command leaves behind after its last step. -/
def Outcome.ofRun : Except CommandError Nat × Console → Outcome
  | (.ok code, console) => ⟨.exited code, unlines console.printed, []⟩
  | (.error reason, console) =>
    if reason.isForeseen then
      ⟨.exited 1, unlines console.printed, ["ERROR: " ++ reason.text]⟩
    else ⟨.stopped reason, unlines console.printed, []⟩

/-- A command carried out on its inputs, with an output that can hold some characters. -/
def Command.execute (command : Command) (limit : Int) (catalog : Catalog) (inputs : Inputs)
    (canHold : Char → Bool) : Outcome :=
  .ofRun ((command.run limit catalog).run.run (.start inputs canHold))

end DeliveryRules.CommandLine
