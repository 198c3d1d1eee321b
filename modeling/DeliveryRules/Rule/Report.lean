import DeliveryRules.Value.Display

/-! Reports of errors: a kind, a message and a code, with whatever further facts are known. -/

namespace DeliveryRules

/-- The kinds of errors that are reported. -/
inductive ReportKind
  | general
  | catalogLoad
  | catalogValidation
  | catalogVersion
  | unknownCategory
  | invalidCondition
  | conditionDepth
deriving DecidableEq

namespace ReportKind

/-- The code of a kind of error. -/
def code : ReportKind → String
  | .general => "RP_INTERNAL_ERROR"
  | .catalogLoad => "RP_CATALOG_LOAD_ERROR"
  | .catalogValidation => "RP_CATALOG_VALIDATION_ERROR"
  | .catalogVersion => "RP_CATALOG_VERSION_MISMATCH"
  | .unknownCategory => "RP_UNKNOWN_CATEGORY"
  | .invalidCondition => "RP_INVALID_CONDITION"
  | .conditionDepth => "RP_CONDITION_TOO_DEEP"

/-- A kind of error and the more general ones it belongs to, the most general coming last. -/
def lineage : ReportKind → List ReportKind
  | .general => [.general]
  | .conditionDepth => [.conditionDepth, .invalidCondition, .general]
  | kind => [kind, .general]

end ReportKind

/-- A report of an error, whose parts are taken as they are given. -/
structure Report where
  kind : ReportKind
  message : Value
  code : Value
  details : Value
  category : Value

namespace Report

/-- A report with the code of its kind and some details. -/
def ofKind (kind : ReportKind) (message : String) (details : Members) : Report :=
  ⟨kind, .text message, .text kind.code, .object details, .null⟩

/-- The report with some of its fields replaced, or nothing if a field has no place in reports. -/
def withField? (report : Report) (name : String) (value : Value) : Option Report :=
  if name = "code" then some { report with code := value }
  else if name = "details" then some { report with details := value }
  else if name = "category" then some { report with category := value }
  else none

/-- A report with every given field in place. -/
def withFields? (report : Report) (fields : Members) : Option Report :=
  fields.foldlM (fun report field => report.withField? field.1 field.2) report

/-- A report on one line: the code in brackets, the message, and the category if there is one. -/
def text (report : Report) : String :=
  "[" ++ report.code.spoken ++ "] " ++ report.message.spoken ++
    if report.category.isTruthy then " (category: " ++ report.category.spoken ++ ")" else ""

/-- A report as a document, without details or category where there are none. -/
def toValue (report : Report) : Value :=
  let given (name : String) (value : Value) : Members :=
    if value.isTruthy then [(name, value)] else []
  .object ([("code", report.code), ("message", report.message)] ++
    given "details" report.details ++ given "category" report.category)

end Report

end DeliveryRules
