import DeliveryRules.Catalog.Packaged
import DeliveryRules.Proofs.Json.Raw
import DeliveryRules.Proofs.Json.RoundTrip
import DeliveryRules.Proofs.Path.Following
import DeliveryRules.Proofs.Rule.Totality
import DeliveryRules.Proofs.Service.Framework
import DeliveryRules.Service.Server

/-! Requests about a rule are answered with the outcome of the library, and fail in one order: for
the catalog, then for the category, then for the rule. -/

namespace DeliveryRules.Service

/-- Whether an operation checks a rule against the catalog. -/
def RuleAction.usesCatalog : RuleAction → Bool
  | .validate | .preview => true
  | _ => false

/-- Whether an operation needs the condition that a rule gives. -/
def RuleAction.needsCondition : RuleAction → Bool
  | .simulate | .preview | .evaluate => true
  | _ => false

/-- The result of an operation as the members of a document, with a catalog where one is used. -/
inductive Server.Yields (server : Server) (word : String) (condition data : Value) :
    RuleAction → Members → Prop
  | validate {catalog : Catalog} {category : Category} :
    server.catalog = .ok catalog → Category.ofWord? word = some category →
      Yields server word condition data .validate
        (DeliveryRules.validate server.limit catalog category condition).members
  | explain {sentence : String} :
    DeliveryRules.explain server.limit server.limit condition = .ok sentence →
      Yields server word condition data .explain [("explanation", .text sentence)]
  | simulate {category : Category} {lines : List String} :
    Category.ofWord? word = some category →
      DeliveryRules.simulate server.limit server.limit category condition = .ok lines →
      Yields server word condition data .simulate [("lines", .list (lines.map .text))]
  | preview {catalog : Catalog} {category : Category} {preview : Preview} {members : Members} :
    server.catalog = .ok catalog → Category.ofWord? word = some category →
      previewRule (.uniform server.limit) catalog category condition = .ok preview →
      preview.toValue = .object members → Yields server word condition data .preview members
  | evaluate {category : Category} {result : Value} :
    Category.ofWord? word = some category →
      DeliveryRules.evaluate server.limit condition data = .ok result →
      Yields server word condition data .evaluate [("category", .text word), ("result", result)]

/-- Whether the catalog is there for an operation that uses it. -/
def Server.IsLoadedFor (server : Server) (action : RuleAction) : Prop :=
  action.usesCatalog = true → ∃ catalog, server.catalog = .ok catalog

/-- Whether a word names a category for an operation that expects one. -/
def RuleAction.Knows (action : RuleAction) (word : String) : Prop :=
  action.expectation.category = true → ∃ category, Category.ofWord? word = some category

/-- Whether a response to a request is a report with a status and the request's identifier. -/
def IsReport (identifier : String) (status : Nat) (report : Report)
    (outcome : Except Silence Response) : Prop :=
  ∃ response members, outcome = .ok response ∧ response.status = status ∧
    report.toValue = .object members ∧
    response.sent identifier = .document (.object (members ++ [("request_id", .text identifier)]))

/-- Whether a response to a request is a document with the members that an operation gives. -/
def IsSuccess (identifier : String) (members : Members) (outcome : Except Silence Response) :
    Prop :=
  ∃ response, outcome = .ok response ∧ response.status = 200 ∧
    response.sent identifier = .document (.object members)

/-- What becomes of a request about a rule, in the order in which an operation can fail. -/
structure Server.Settles (server : Server) (action : RuleAction) (word : String)
    (condition data : Value) (identifier : String) (outcome : Except Silence Response) :
    Prop where
  unloaded : ∀ reason, action.usesCatalog = true → server.catalog = .error reason →
    -- The issues of a catalog are only sent if they are data, and data that JSON can hold.
    (∀ report, (RuleError.catalog reason).report? = some report → reason.isData = true →
      isPlainJson report.toValue = true → IsReport identifier 500 report outcome) ∧
    ((RuleError.catalog reason).report? = none ∨ reason.isData = false →
      ∃ silence, outcome = .error silence)
  unknown : server.IsLoadedFor action → action.expectation.category = true →
    Category.ofWord? word = none →
      IsReport identifier 404 (RuleError.categoryReport (.text word)) outcome
  malformed : server.IsLoadedFor action → action.Knows word → action.needsCondition = true →
    isShort server.limit = true →
      ((∃ response, outcome = .ok response ∧ response.status = 422) ↔
        ∃ fault, condition.toCondition server.limit = .error fault) ∧
      ∀ fault, condition.toCondition server.limit = .error fault →
        IsReport identifier 422 fault.report outcome
  answered : server.IsLoadedFor action → action.Knows word →
    (action.needsCondition = true → ∃ built, condition.toCondition server.limit = .ok built) →
      (∃ members, IsSuccess identifier members outcome ∧
        server.Yields word condition data action members) ∨
      -- An index that is too long to be read is met by no part of the service.
      action.needsCondition = true ∧
        (∃ path ∈ referencedFields server.limit condition, isFollowable path = false) ∧
        outcome = .error (.unreported (.misuse (.numeral .tooManyDigits)))

section Sending

variable {framework : Framework} {identifier : String}

end Sending

section Stages

variable {server : Server} {action : RuleAction} {body : RuleBody} {word : String}
  {condition data : Value}

end Stages

section Settled

variable {server : Server} {framework : Framework} {action : RuleAction} {body : RuleBody}
  {word : String} {condition data : Value} (identifier : String)

end Settled

end DeliveryRules.Service
