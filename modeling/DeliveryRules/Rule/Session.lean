import DeliveryRules.Catalog.Store
import DeliveryRules.Rule.Preview

/-! A run of requests that share one catalog and one depth limit, either of which may change. -/

namespace DeliveryRules

/-- What a session keeps between requests. -/
structure Session where
  store : CatalogStore
  limit : Int

/-- A request to a session. -/
inductive SessionRequest
  | configure (name : Option String)
  | setLimit (limit : Int)
  | forget
  | isLoaded
  | get
  | load (name : String)
  | paths (category : Value)
  | validate (tree category : Value)
  | preview (tree category : Value)

/-- The answer to a request. -/
inductive SessionAnswer
  | done
  | truth (value : Bool)
  | catalog (loaded : LoadedCatalog)
  | paths (sorted : List String)
  | verdict (verdict : Verdict)
  | preview (preview : Preview)

namespace Session

/-- A session over files, with nothing loaded and the standard limit. -/
def start (installation : Installation) (files : Files) : Session :=
  ⟨.start installation files, Limits.standard⟩

/-- A use of the shared catalog; the catalog stays loaded even if the use fails. -/
def withCatalog (session : Session) (use : Catalog → Except RuleError SessionAnswer) :
    Session × Except RuleError SessionAnswer :=
  match session.store.get with
  | (store, .ok loaded) => ({ session with store := store }, use loaded.catalog)
  | (store, .error reason) => ({ session with store := store }, .error (.catalog reason))

/-- The answer that is the outcome of a load. -/
def loadAnswer (session : Session) (outcome : CatalogStore × Except CatalogError LoadedCatalog) :
    Session × Except RuleError SessionAnswer :=
  ({ session with store := outcome.1 },
    match outcome.2 with
    | .ok loaded => .ok (.catalog loaded)
    | .error reason => .error (.catalog reason))

/-- One request answered. -/
def step (session : Session) (request : SessionRequest) :
    Session × Except RuleError SessionAnswer :=
  match request with
  | .configure name => ({ session with store := session.store.configure name }, .ok .done)
  | .setLimit limit => ({ session with limit := limit }, .ok .done)
  | .forget => ({ session with store := session.store.forget }, .ok .done)
  | .isLoaded => (session, .ok (.truth session.store.isLoaded))
  | .get => session.loadAnswer session.store.get
  | .load name => session.loadAnswer (session.store.load name)
  -- The catalog is obtained before the category is looked at.
  | .paths category => session.withCatalog fun catalog => do
    let category ← category.toCategory
    return .paths (sortedPaths (catalog.pathsFor category))
  | .validate tree category => session.withCatalog fun catalog => do
    let category ← category.toCategory
    return .verdict (DeliveryRules.validate session.limit catalog category tree)
  | .preview tree category => session.withCatalog fun catalog => do
    let category ← category.toCategory
    let preview ← previewRule (.uniform session.limit) catalog category tree
    return .preview preview

/-- Requests answered in order. -/
def run (session : Session) : List SessionRequest → Session × List (Except RuleError SessionAnswer)
  | [] => (session, [])
  | request :: rest =>
    let (next, answer) := session.step request
    let (last, answers) := next.run rest
    (last, answer :: answers)

end Session

end DeliveryRules
