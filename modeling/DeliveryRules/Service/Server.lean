import DeliveryRules.Rule.Preview
import DeliveryRules.Service.Response

/-! Requests answered with a status and a document, or with the text of the catalog. -/

namespace DeliveryRules.Service

/-- What a service answers with: the depth limit it holds rules to, and the shared catalog. -/
structure Server where
  limit : Int
  catalog : Except CatalogError Catalog

/-- The version of the service. -/
def version : String := "1.0.0"

namespace Server

/-- The shared catalog, or the failure to load it. -/
def sharedCatalog (server : Server) : Except RuleError Catalog :=
  server.catalog.mapError .catalog

/-- The paths of a category, which is looked at before the catalog is. -/
def categoryPaths (server : Server) (word : String) : Except RuleError Response := do
  let category ← (Value.text word).toCategory
  let catalog ← server.sharedCatalog
  return .good [("category", .text category.word), ("result_type", .text category.resultType),
    ("paths", .list ((sortedPaths (catalog.pathsFor category)).map .text))]

/-- The value of a rule on the data sent with it. -/
def evaluation (server : Server) (body : RuleBody) : Except RuleError Response := do
  let category ← body.category.toCategory
  match evaluate server.limit body.condition body.data with
  | .error reason => .error reason.toRuleError
  | .ok result => return .good [("category", .text category.word), ("result", result)]

/-- An operation on the rule in a body. -/
def ruleResponse (server : Server) (action : RuleAction) (body : RuleBody) :
    Except RuleError Response :=
  match action with
  | .explain => do
    let sentence ← explanationOf (.uniform server.limit) body.condition
    return .good [("explanation", .text sentence)]
  -- The catalog is obtained before the category is looked at.
  | .validate => do
    let catalog ← server.sharedCatalog
    let category ← body.category.toCategory
    return .good (DeliveryRules.validate server.limit catalog category body.condition).members
  | .simulate => do
    let category ← body.category.toCategory
    let lines ← DeliveryRules.simulate server.limit server.limit category body.condition
    return .good [("lines", .list (lines.map .text))]
  | .preview => do
    let catalog ← server.sharedCatalog
    let category ← body.category.toCategory
    let preview ← previewRule (.uniform server.limit) catalog category body.condition
    return ⟨200, .document preview.toValue, false⟩
  | .evaluate => server.evaluation body

/-- What a route answers to a request that carries no rule. -/
def plainResponse (server : Server) (route : Route) : Except RuleError Response :=
  match route with
  | .catalog => do
    let catalog ← server.sharedCatalog
    return ⟨200, .document catalog.toValue, false⟩
  | .prompt => do
    let catalog ← server.sharedCatalog
    return ⟨200, .text catalog.serialize, false⟩
  | .paths category => server.categoryPaths category
  | _ => do
    let catalog ← server.sharedCatalog
    return .good [("status", .text "healthy"), ("version", .text version),
      ("catalog_groups", .int catalog.groups.length)]

/-- The response to a request, sent through a web framework. -/
def respond (server : Server) (framework : Framework) (request : Request) :
    Except Silence Response :=
  match framework.route request with
  | .error refusal => .ok refusal
  | .ok (.rule action) =>
    match framework.bind action.expectation request.body with
    | .error refusal => .ok refusal
    | .ok body => framework.deliver (server.ruleResponse action body)
  | .ok route => framework.deliver (server.plainResponse route)

end Server

end DeliveryRules.Service
