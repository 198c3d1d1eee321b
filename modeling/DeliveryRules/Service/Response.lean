import DeliveryRules.Rule.Error
import DeliveryRules.Service.Request

/-! Responses of the service, and what it takes to send one. -/

namespace DeliveryRules.Service

/-- What a response carries. -/
inductive Content
  | document (value : Value)
  | text (content : String)

/-- The kind of content, as the service declares it. -/
def Content.mediaType : Content → String
  | .document _ => "application/json"
  | .text _ => "text/plain"

/-- A response of the service. -/
structure Response where
  status : Nat
  content : Content
  -- The report of a failure is sent with the identifier of the request that failed.
  isReport : Bool

namespace Response

/-- A successful response. -/
def good (members : Members) : Response := ⟨200, .document (.object members), false⟩

/-- What is sent of a response to a request with some identifier. -/
def sent (response : Response) (identifier : String) : Content :=
  match response.isReport, response.content with
  | true, .document (.object members) =>
    .document (.object (Members.put members "request_id" (.text identifier)))
  | _, content => content

end Response

/-- The status of a failure: whose fault it is decides. -/
def statusOf : RuleError → Nat
  | .unknownCategory _ => 404
  | .malformed _ => 422
  | _ => 500

/-- Whether all that a report of a failure would hold is data. -/
def reportsData : RuleError → Bool
  | .catalog reason => reason.isData
  | _ => true

/--
The part that a web framework plays in the service.

It finds the route of a request, takes the rule out of a body as an operation expects it, and writes
documents to be sent. Where it refuses a request, it answers by itself.
-/
structure Framework where
  route : Request → Except Response Route
  bind : Expectation → String → Except Response RuleBody
  canSend : Value → Bool

/-- Why a request is left without an answer by all parts of the service. -/
inductive Silence
  | unreported (failure : RuleError)
  | unsendable

namespace Framework

/-- A response on its way out, which its content may not allow to be sent. -/
def send (framework : Framework) (response : Response) : Except Silence Response :=
  match response.content with
  | .document value => if framework.canSend value then .ok response else .error .unsendable
  | .text _ => .ok response

/-- The outcome of a request on its way out: a failure is sent as its report, if it has one. -/
def deliver (framework : Framework) (outcome : Except RuleError Response) :
    Except Silence Response :=
  match outcome with
  | .ok response => framework.send response
  | .error failure =>
    match failure.report? with
    | none => .error (.unreported failure)
    | some report =>
      if reportsData failure then framework.send ⟨statusOf failure, .document report.toValue, true⟩
      else .error .unsendable

end Framework

end DeliveryRules.Service
