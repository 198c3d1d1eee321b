import DeliveryRules.CommandLine.Command

/-! The help that is printed for a command line. -/

namespace DeliveryRules.CommandLine

/-- The name of the program. -/
def programName : String := "delivery-rules"

/-- What a command takes, as shown in the help. -/
def CommandName.synopsis : CommandName → String
  | .catalog => "catalog"
  | .paths => "paths CATEGORY"
  | .validate => "validate RULE [--category CATEGORY]"
  | .simulate => "simulate RULE [--category CATEGORY]"
  | .preview => "preview RULE [--category CATEGORY] [--json]"
  | .explain => "explain RULE"
  | .evaluate => "evaluate RULE DATA"

/-- What a command does, as shown in the help. -/
def CommandName.purpose : CommandName → String
  | .catalog => "Print the full field catalog"
  | .paths => "List the paths allowed for a category"
  | .validate => "Check a rule's field references"
  | .simulate => "Run a rule over sample orders"
  | .preview => "Validate, explain and simulate a rule"
  | .explain => "Print a rule as a sentence"
  | .evaluate => "Run a rule against a data document"

/-- The help for the whole command line. -/
def usage : List String :=
  ["usage: " ++ programName ++ " [-h] [-v] COMMAND ...", "", "Commands:"] ++
  (CommandName.all.flatMap fun name => ["  " ++ name.synopsis, "      " ++ name.purpose]) ++
  ["", "RULE and DATA name JSON files, or the standard input when they are a dash."]

end DeliveryRules.CommandLine
