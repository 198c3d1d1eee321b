import DeliveryRules.Service.Response
import DeliveryRules.Text.Escape

/-! A web framework: how addresses lead to routes, bodies are checked, and documents are sent. -/

namespace DeliveryRules.Service

/-- The path of an address, without the host in front and what asks for a part or a view of it. -/
def pathOf (address : String) : String :=
  let path := address.toList.takeWhile fun c => c != '?' && c != '#'
  String.ofList
    (match path with
    | '/' :: '/' :: rest => rest.dropWhile (· != '/')
    | path => path)

/-- The parts of a path between slashes, those in front of the first part being of no account. -/
def pathParts (path : String) : List String :=
  (String.ofList (path.toList.dropWhile (· = '/'))).splitToList (· = '/')

/-- Parts in which a dot stays at its place and two dots go back to the part before. -/
def withoutDots (parts : List String) : List String :=
  (parts.foldl (fun taken part =>
    if part = "." then taken else if part = ".." then taken.drop 1 else part :: taken)
    []).reverse

/-- The parts of a path without the empty ones at its end. -/
def withoutTrailing (parts : List String) : List String :=
  (parts.reverse.dropWhile (· == "")).reverse

/-- A text without the line feed that may end it, unless it is nothing else. -/
def withoutLineFeed (text : String) : String :=
  match text.toList.reverse with
  | '\n' :: c :: rest => String.ofList (c :: rest).reverse
  | _ => text

/-- Parts of which the last may end with a line feed. -/
def withoutFinalFeed (parts : List String) : List String :=
  match parts.reverse with
  | [] => []
  | last :: rest => (withoutLineFeed last :: rest).reverse

/-- The route at an address, slashes at its end being of no account. -/
def Route.ofAddress? (address : String) : Option Route :=
  let sent := "/".intercalate (withoutDots (pathParts (pathOf address)))
  -- Escapes are resolved once where a request is sent and once where it is received.
  let received := unescape (unescape sent)
  Route.ofParts? (withoutFinalFeed (withoutTrailing (received.splitToList (· = '/'))))

/-- What is wrong with a body, or with a member of it. -/
inductive BodyFault
  | unreadable
  | missing
  | notText
  | notObject
  -- A body of members was expected and something else sent.
  | notMembers
deriving DecidableEq

namespace BodyFault

/-- The word for a fault. -/
def word : BodyFault → String
  | .unreadable => "json_invalid"
  | .missing => "missing"
  | .notText => "string_type"
  | .notObject => "dict_type"
  | .notMembers => "model_attributes_type"

end BodyFault

/-- A fault and the member that has it, or the whole body. -/
structure BodyIssue where
  fault : BodyFault
  member : Option String
deriving DecidableEq

namespace BodyIssue

/-- The place of an issue as the steps that lead to it. -/
def location (issue : BodyIssue) : List Value :=
  [.text "body"] ++ (issue.member.map fun name => [.text name]).getD []

/-- An issue as a document; text that is no document has no place in it. -/
def toValue (issue : BodyIssue) : Value :=
  .object ([("type", .text issue.fault.word)] ++
    if issue.fault = .unreadable then [] else [("loc", .list issue.location)])

end BodyIssue

/-- The body of a request that is sent as a document. -/
inductive Body
  | absent
  | unreadable
  | document (value : Value)

/-- The body that a text is, if its numbers can be read. -/
def Body.ofText? (text : String) : Option Body :=
  if text = "" then some .absent
  else
    match bodyDocument text with
    | .ok value => some (.document value)
    | .error .malformed => some .unreadable
    | .error _ => none

namespace RuleBody

/-- What is wrong with a member, which may have to be of some kind. -/
def memberIssues (members : Members) (name : String) (isKind : Value → Bool) (fault : BodyFault) :
    List BodyIssue :=
  match members.lookup name with
  | none => [⟨.missing, some name⟩]
  | some value => if isKind value then [] else [⟨fault, some name⟩]

/-- Whether a value is a text. -/
def isText : Value → Bool
  | .text _ => true
  | _ => false

/-- Whether a value is an object. -/
def isObject : Value → Bool
  | .object _ => true
  | _ => false

/-- Everything that is wrong with the members of a body. -/
def issues (expected : Expectation) (members : Members) : List BodyIssue :=
  (if expected.category then memberIssues members "category" isText .notText else []) ++
  memberIssues members "condition" (fun _ => true) .missing ++
  (if expected.data then memberIssues members "data" isObject .notObject else [])

/-- A member, or null. -/
def memberOrNull (members : Members) (name : String) : Value := (members.lookup name).getD .null

/-- The rule in a body, or everything that is wrong with the body. -/
def ofBody (expected : Expectation) (body : Body) : Except (List BodyIssue) RuleBody :=
  match body with
  | .absent => .error [⟨.missing, none⟩]
  | .unreadable => .error [⟨.unreadable, none⟩]
  | .document (.object members) =>
    match issues expected members with
    | [] =>
      .ok ⟨memberOrNull members "category", memberOrNull members "condition",
        memberOrNull members "data"⟩
    | found => .error found
  | .document _ => .error [⟨.notMembers, none⟩]

end RuleBody

mutual

/-- Whether a value is plain JSON: no number in it is undefined, infinite or too long. -/
def isPlainJson : Value → Bool
  | .int n => isShort n
  | .float (.finite _) => true
  | .float _ | .bytes _ | .condition _ => false
  | .list items => arePlainJson items
  | .tuple items => arePlainJson items
  | .object members => membersPlainJson members
  | _ => true
termination_by structural value => value

/-- Whether every element of a sequence is plain JSON. -/
def arePlainJson : List Value → Bool
  | [] => true
  | item :: rest => isPlainJson item && arePlainJson rest
termination_by structural items => items

/-- Whether every member of an object holds plain JSON. -/
def membersPlainJson : List (String × Value) → Bool
  | [] => true
  | (_, value) :: rest => isPlainJson value && membersPlainJson rest
termination_by structural members => members

end

namespace Response

/-- A response that only says what kind of failure it is. -/
def plainFailure (status : Nat) (phrase : String) : Response :=
  ⟨status, .document (.object [("detail", .text phrase)]), false⟩

/-- The response to an address where nothing is. -/
def notFound : Response := plainFailure 404 "Not Found"

/-- The response to a method that a route does not answer. -/
def methodNotAllowed : Response := plainFailure 405 "Method Not Allowed"

/-- The response to a body whose numbers cannot be read. -/
def unparsedBody : Response := plainFailure 400 "There was an error parsing the body"

/-- The response to a body that cannot be used. -/
def refusedBody (issues : List BodyIssue) : Response :=
  ⟨422, .document (.object [("detail", .list (issues.map BodyIssue.toValue))]), false⟩

end Response

namespace Framework

/-- The framework that the service is written for. -/
def standard : Framework where
  route request :=
    match Route.ofAddress? request.address with
    | none => .error .notFound
    | some route =>
      -- A method may be written in letters of either case.
      if request.method.map Char.toUpper = route.method then .ok route
      else .error .methodNotAllowed
  bind expected text :=
    match Body.ofText? text with
    | none => .error .unparsedBody
    | some body => (RuleBody.ofBody expected body).mapError .refusedBody
  canSend := isPlainJson

end Framework

end DeliveryRules.Service
