import DeliveryRules.Catalog.Error
import DeliveryRules.Rule.Amount
import DeliveryRules.Rule.Evaluation
import DeliveryRules.Rule.Report

/-! Why an operation on a rule has no answer, and which of the reasons are reported to users. -/

namespace DeliveryRules

/-- A misuse of the library, which no report describes. -/
inductive Misuse
  | uncheckedOperator
  | amount (reason : AmountError)
  | numeral (reason : NumeralError)
deriving DecidableEq

/-- Why an operation on a rule has no answer. -/
inductive RuleError
  | unknownCategory (value : Value)
  | malformed (fault : StructureError)
  | catalog (reason : CatalogError)
  | misuse (reason : Misuse)

namespace StructureError

/-- The kind of report a fault makes. -/
def reportKind (fault : StructureError) : ReportKind :=
  if fault.isDepth then .conditionDepth else .invalidCondition

/-- What is reported of a fault. -/
def report (fault : StructureError) : Report := .ofKind fault.reportKind fault.message fault.details

/-- The report of a fault, if the fault can be told. -/
def report? (fault : StructureError) : Option Report :=
  if fault.isTellable then some fault.report else none

end StructureError

namespace CatalogError

/-- The kind of report an error makes. -/
def reportKind : CatalogError → ReportKind
  | .versionMismatch _ => .catalogVersion
  | .invalid .. => .catalogValidation
  | _ => .catalogLoad

/-- The report of an error, which a name or a version that cannot be used does not make. -/
def report? (error : CatalogError) : Option Report :=
  if error.isTellable then some (.ofKind error.reportKind error.message error.details) else none

end CatalogError

namespace RuleError

/-- The report that a value names no category, with the words that would. -/
def categoryReport (value : Value) : Report :=
  .ofKind .unknownCategory ("Unknown rule category: " ++ value.display)
    [("valid", .list (Category.all.map fun category => .text category.word))]

/-- The report of an error, which misuses and what cannot be told do not make. -/
def report? : RuleError → Option Report
  | .unknownCategory value => if value.isWritable then some (categoryReport value) else none
  | .malformed fault => fault.report?
  | .catalog reason => reason.report?
  | .misuse _ => none

/-- The outcome of writing or reading numbers, as that of an operation on a rule. -/
def ofNumeral {α : Type} (outcome : Except NumeralError α) : Except RuleError α :=
  outcome.mapError fun reason => .misuse (.numeral reason)

end RuleError

/-- The category a value names. -/
def Value.toCategory (value : Value) : Except RuleError Category :=
  (Category.ofValue value).mapError .unknownCategory

namespace EvaluationError

/-- The reason why a rule has no value, among the reasons why operations fail. -/
def toRuleError : EvaluationError → RuleError
  | .malformed fault => .malformed fault
  | .uncheckedOperator => .misuse .uncheckedOperator
  | .numeral reason => .misuse (.numeral reason)

end EvaluationError

end DeliveryRules
