import DeliveryRules.Catalog.Basic
import DeliveryRules.Catalog.Category
import DeliveryRules.Catalog.DeclaredPath
import DeliveryRules.Catalog.Error
import DeliveryRules.Catalog.Files
import DeliveryRules.Catalog.Loader
import DeliveryRules.Catalog.Packaged
import DeliveryRules.Catalog.Schema
import DeliveryRules.Catalog.Store
import DeliveryRules.CommandLine.Argument
import DeliveryRules.CommandLine.Command
import DeliveryRules.CommandLine.Outcome
import DeliveryRules.CommandLine.Script
import DeliveryRules.CommandLine.Usage
import DeliveryRules.Condition.Build
import DeliveryRules.Condition.Error
import DeliveryRules.Condition.Operator
import DeliveryRules.Condition.Parser
import DeliveryRules.Condition.Wire
import DeliveryRules.Json.Flow
import DeliveryRules.Json.Parser
import DeliveryRules.Json.Printer
import DeliveryRules.Json.Token
import DeliveryRules.Log.Mark
import DeliveryRules.Log.Message
import DeliveryRules.Log.Record
import DeliveryRules.Main
import DeliveryRules.Number.Binary64
import DeliveryRules.Number.Decimal
import DeliveryRules.Number.Fixed
import DeliveryRules.Number.Rounded
import DeliveryRules.Number.Shortest
import DeliveryRules.Path.Lexeme
import DeliveryRules.Path.Resolve
import DeliveryRules.Path.Segment
import DeliveryRules.Proofs.Catalog.Acceptance
import DeliveryRules.Proofs.Catalog.Declaration
import DeliveryRules.Proofs.Catalog.DeclaredPath
import DeliveryRules.Proofs.Catalog.Files
import DeliveryRules.Proofs.Catalog.Loaded
import DeliveryRules.Proofs.Catalog.Reader
import DeliveryRules.Proofs.Catalog.Rewritten
import DeliveryRules.Proofs.CommandLine.Answer
import DeliveryRules.Proofs.CommandLine.Complaint
import DeliveryRules.Proofs.CommandLine.Outcome
import DeliveryRules.Proofs.CommandLine.Script
import DeliveryRules.Proofs.Condition.DocumentForm
import DeliveryRules.Proofs.Condition.FirstFault
import DeliveryRules.Proofs.Condition.Location
import DeliveryRules.Proofs.Condition.Occurrence
import DeliveryRules.Proofs.Condition.Operator
import DeliveryRules.Proofs.Condition.Parser
import DeliveryRules.Proofs.Condition.Shape
import DeliveryRules.Proofs.Condition.WellFormed
import DeliveryRules.Proofs.Condition.Wire
import DeliveryRules.Proofs.Json.Raw
import DeliveryRules.Proofs.Json.RoundTrip
import DeliveryRules.Proofs.Json.Token
import DeliveryRules.Proofs.Number.Decimal
import DeliveryRules.Proofs.Number.Place
import DeliveryRules.Proofs.Number.Rounding
import DeliveryRules.Proofs.Outcome
import DeliveryRules.Proofs.Path.Dotted
import DeliveryRules.Proofs.Path.Following
import DeliveryRules.Proofs.Path.Grammar
import DeliveryRules.Proofs.Path.Lexeme
import DeliveryRules.Proofs.Path.Normal
import DeliveryRules.Proofs.Path.Resolve
import DeliveryRules.Proofs.Rule.AllowedPath
import DeliveryRules.Proofs.Rule.Amount
import DeliveryRules.Proofs.Rule.Elision
import DeliveryRules.Proofs.Rule.Equality
import DeliveryRules.Proofs.Rule.Evaluation
import DeliveryRules.Proofs.Rule.Explanation
import DeliveryRules.Proofs.Rule.Failure
import DeliveryRules.Proofs.Rule.Locality
import DeliveryRules.Proofs.Rule.Noninterference
import DeliveryRules.Proofs.Rule.Operation
import DeliveryRules.Proofs.Rule.PlainNumber
import DeliveryRules.Proofs.Rule.Preview
import DeliveryRules.Proofs.Rule.Rearrangement
import DeliveryRules.Proofs.Rule.Reference
import DeliveryRules.Proofs.Rule.Rendering
import DeliveryRules.Proofs.Rule.Sample
import DeliveryRules.Proofs.Rule.Session
import DeliveryRules.Proofs.Rule.Totality
import DeliveryRules.Proofs.Rule.Truncation
import DeliveryRules.Proofs.Rule.TwoForms
import DeliveryRules.Proofs.Rule.Validation
import DeliveryRules.Proofs.Rule.WiderLimit
import DeliveryRules.Proofs.Service.Framework
import DeliveryRules.Proofs.Service.Server
import DeliveryRules.Proofs.Text.Hex
import DeliveryRules.Proofs.Text.Numeral
import DeliveryRules.Proofs.Text.Quoted
import DeliveryRules.Proofs.Value.Comparison
import DeliveryRules.Proofs.Value.Container
import DeliveryRules.Proofs.Value.Document
import DeliveryRules.Proofs.Value.Equality
import DeliveryRules.Proofs.Value.PartialEquivalence
import DeliveryRules.Proofs.Value.Raw
import DeliveryRules.Rule.Amount
import DeliveryRules.Rule.Error
import DeliveryRules.Rule.Evaluation
import DeliveryRules.Rule.Explanation
import DeliveryRules.Rule.Preview
import DeliveryRules.Rule.Reference
import DeliveryRules.Rule.Rendering
import DeliveryRules.Rule.Report
import DeliveryRules.Rule.Sample
import DeliveryRules.Rule.Session
import DeliveryRules.Rule.Simulation
import DeliveryRules.Rule.Validation
import DeliveryRules.Service.Framework
import DeliveryRules.Service.Request
import DeliveryRules.Service.Response
import DeliveryRules.Service.Route
import DeliveryRules.Service.Server
import DeliveryRules.Text.Digit
import DeliveryRules.Text.Escape
import DeliveryRules.Text.Hex
import DeliveryRules.Text.Line
import DeliveryRules.Text.Numeral
import DeliveryRules.Text.Printable
import DeliveryRules.Text.Quoted
import DeliveryRules.Text.Utf8
import DeliveryRules.Value.Basic
import DeliveryRules.Value.Display
import DeliveryRules.Value.Equality
