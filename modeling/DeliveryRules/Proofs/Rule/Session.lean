import DeliveryRules.Catalog.Packaged
import DeliveryRules.Proofs.Catalog.Files
import DeliveryRules.Rule.Session

/-! Between two resets, all uses of the shared catalog see the one that could be loaded first. -/

namespace DeliveryRules

/-- Where there are no files, no steps lead to one. -/
theorem Files.walk_nil (name : String) (place : Directory) (steps : List String) :
    ∃ reason, Files.walk [] name place steps = .error reason := by
  -- The place is generalised, since every step leads to another one.
  induction steps generalizing place with
  | nil => exact ⟨_, rfl⟩
  | cons step rest ih =>
    unfold walk
    split
    · exact ih place.parent
    · split
      · exact ⟨_, rfl⟩
      · cases place <;> exact ⟨_, rfl⟩

/-- Where there are no files, no catalog can be loaded from one. -/
theorem Catalog.ofFile_nil (installation : Installation) (name : String) :
    ∃ reason, ofFile installation [] name = .error reason := by
  -- The name is refused, or its steps lead nowhere.
  have closed : ∃ reason, Files.bytesOf [] name = .error reason := by
    unfold Files.bytesOf
    dsimp only
    split
    · exact ⟨_, rfl⟩
    · split
      · exact ⟨_, rfl⟩
      · exact Files.walk_nil _ _ _
  obtain ⟨reason, failed⟩ := closed
  exact ⟨.unreadable (cleanName name) reason, by simp only [ofFile, Files.read, failed]; rfl⟩

/-- A packaged file that is a text is a catalog as far as the reader of YAML makes one of it. -/
theorem Catalog.ofPackagedFile_of_text {installation : Installation} {octets : ByteArray}
    {text : String} (file : installation.packagedFile = .ok octets)
    (decoded : decodeText octets = some text) :
    ofPackagedFile installation =
      ofReading (installation.readYaml text) (.malformedFile packagedSource) packagedSource := by
  have opened : installation.packagedFile >>= decodeFile packagedSource = .ok text := by
    rw [file]
    show decodeFile packagedSource octets = .ok text
    rw [decodeFile, decoded]
  rw [ofPackagedFile, opened]

/-- The standard installation is intact: the packaged catalog is what is read from its file. -/
theorem Installation.isIntact_standard : standard.IsIntact := by
  obtain ⟨text, decoded⟩ : ∃ text, decodeText packagedBytes = some text :=
    ⟨_, decodeText_toUTF8 Catalog.packaged.serialize⟩
  have file : standard.packagedFile = .ok packagedBytes := by rw [standard]
  have known : standard.readYaml text = .ok Catalog.packaged.toValue := by
    rw [standard]
    dsimp only
    rw [if_pos decoded]
  -- The document of the packaged catalog is loaded as what it was written for.
  have loaded : Catalog.ofValue true (some Catalog.packagedSource) Catalog.packaged.toValue =
      .ok Catalog.packaged := rfl
  rw [IsIntact, Catalog.ofPackagedFile_of_text file decoded, known, Catalog.ofReading, loaded]

namespace CatalogStore

variable {store : CatalogStore} {catalog : Catalog} {reason : CatalogError}

/-- A shared catalog is used as it is. -/
theorem get_shared {loaded : LoadedCatalog} (shared : store.shared = some loaded) :
    store.get = (store, .ok loaded) := by
  simp [get, shared]

/-- Where no catalog is shared, the configured one is loaded and shared from then on. -/
theorem get_readable (unset : store.shared = none) (readable : store.readConfigured = .ok catalog) :
    store.get =
      ({ store with loads := store.loads + 1, shared := some ⟨store.loads, catalog⟩ },
        .ok ⟨store.loads, catalog⟩) := by
  simp [get, accept, unset, readable]

/-- Where no catalog is shared and the configured one cannot be loaded, nothing happens. -/
theorem get_unreadable (unset : store.shared = none)
    (unreadable : store.readConfigured = .error reason) : store.get = (store, .error reason) := by
  simp [get, accept, unset, unreadable]

/--
A store of an installation reads from certain files, and a certain one of them is configured.

Its shared catalog has a number below that of any later load.
-/
structure IsOver (installation : Installation) (files : Files) (configured : Option String)
    (store : CatalogStore) : Prop where
  installation : store.installation = installation
  files : store.files = files
  configured : store.configured = configured
  fresh : ∀ loaded, store.shared = some loaded → loaded.serial < store.loads

namespace IsOver

variable {installation : Installation} {files : Files} {name : Option String}

/-- A store that was just opened has nothing configured, and nothing shared. -/
theorem opened (installation : Installation) (files : Files) :
    (CatalogStore.start installation files).IsOver installation files none :=
  ⟨rfl, rfl, rfl, by simp [CatalogStore.start]⟩

/-- A reading changes no more than the number of loads, which only grows. -/
theorem accept (based : store.IsOver installation files name)
    (outcome : Except CatalogError Catalog) :
    (store.accept outcome).1.IsOver installation files name := by
  cases outcome with
  | error reason => exact based
  | ok catalog =>
    refine ⟨based.installation, based.files, based.configured, fun loaded shared => ?_⟩
    exact Nat.lt_succ_of_lt (based.fresh loaded shared)

/-- Obtaining the shared catalog changes neither the files nor what is configured. -/
theorem get (based : store.IsOver installation files name) :
    store.get.1.IsOver installation files name := by
  cases shared : store.shared with
  | some loaded =>
    rw [get_shared shared]
    exact based
  | none =>
    cases readable : store.readConfigured with
    | error reason =>
      rw [get_unreadable shared readable]
      exact based
    | ok catalog =>
      rw [get_readable shared readable]
      refine ⟨based.installation, based.files, based.configured, ?_⟩
      rintro _ ⟨⟩
      exact Nat.lt_succ_self _

end IsOver

end CatalogStore

/-- What a request that uses the shared catalog makes of it; other requests do not use it. -/
def SessionRequest.use? (limit : Int) :
    SessionRequest → Option (LoadedCatalog → Except RuleError SessionAnswer)
  | .get => some fun loaded => .ok (.catalog loaded)
  | .paths category => some fun loaded => do
    let category ← category.toCategory
    return .paths (sortedPaths (loaded.catalog.pathsFor category))
  | .validate tree category => some fun loaded => do
    let category ← category.toCategory
    return .verdict (DeliveryRules.validate limit loaded.catalog category tree)
  | .preview tree category => some fun loaded => do
    let category ← category.toCategory
    let preview ← previewRule (.uniform limit) loaded.catalog category tree
    return .preview preview
  | .configure _ | .setLimit _ | .forget | .isLoaded | .load _ => none

/-- The file that is configured after some requests, given the one before them. -/
def lastConfigured (name : Option String) : List SessionRequest → Option String
  | [] => name
  | .configure other :: rest => lastConfigured other rest
  | _ :: rest => lastConfigured name rest

namespace Session

/-- The session after some requests. -/
def after (session : Session) (requests : List SessionRequest) : Session :=
  (session.run requests).1

/-- Something holds of each request of a run together with the session that the request meets. -/
def Throughout (session : Session) (holds : Session → SessionRequest → Prop) :
    List SessionRequest → Prop
  | [] => True
  | request :: rest => holds session request ∧ (session.step request).1.Throughout holds rest

/-- A request leaves no catalog shared, and a use fails because the configured one is unreadable. -/
def FailsToLoad (session : Session) (request : SessionRequest) : Prop :=
  (session.step request).1.store.shared = none ∧
    ∀ use, request.use? session.limit = some use → ∃ reason,
      session.store.readConfigured = .error reason ∧
        session.step request = (session, .error (.catalog reason))

/-- A request leaves a certain catalog shared, and a use is answered from it, even by failing. -/
def Sees (loaded : LoadedCatalog) (session : Session) (request : SessionRequest) : Prop :=
  (session.step request).1.store.shared = some loaded ∧
    ∀ use, request.use? session.limit = some use → (session.step request).2 = use loaded

/-- A request is a use that loads a certain catalog, which is the configured one. -/
structure Loads (session : Session) (request : SessionRequest) (loaded : LoadedCatalog) : Prop where
  uses : (request.use? session.limit).isSome = true
  read : session.store.readConfigured = .ok loaded.catalog
  sees : session.Sees loaded request

/--
A stretch of requests shares the first catalog that can be loaded.

Either all uses fail to load one, or those up to a first use do, which loads the catalog that is
configured by then, and that catalog is seen by the first use and all requests after it.
-/
def SharesFirst (session : Session) (stretch : List SessionRequest) : Prop :=
  session.Throughout FailsToLoad stretch ∨
    ∃ idle first later loaded, stretch = idle ++ first :: later ∧
      session.Throughout FailsToLoad idle ∧ (session.after idle).Loads first loaded ∧
      (session.after idle).Throughout (Sees loaded) (first :: later)

/-- A reset forgets the shared catalog; another request keeps it, or loads it if there is none. -/
def Changes (session : Session) (request : SessionRequest) : Prop :=
  let next := (session.step request).1
  match request with
  | .forget => next.store.shared = none
  | request => next.store.shared = session.store.shared ∨
    session.store.shared = none ∧ ∃ loaded, session.Loads request loaded

variable {session : Session} {request : SessionRequest} {loaded : LoadedCatalog}

/-- A use obtains the shared catalog, and is answered from it if that succeeds. -/
theorem step_use {use : LoadedCatalog → Except RuleError SessionAnswer}
    (uses : request.use? session.limit = some use) :
    session.step request =
      ({ session with store := session.store.get.1 },
        match session.store.get.2 with
        | .ok loaded => use loaded
        | .error reason => .error (.catalog reason)) := by
  -- The uses are those four, and other requests have no answer to make.
  cases request with
  | get | paths | validate | preview =>
    -- The four uses only differ in what they do with the catalog once they have it.
    obtain rfl := Option.some.inj uses
    cases obtained : session.store.get with
    | mk store outcome => cases outcome <;> simp [step, withCatalog, loadAnswer, obtained]
  | _ => cases uses

/-- A catalog loaded from a file is not shared. -/
theorem shared_step_load (session : Session) (name : String) :
    (session.step (.load name)).1.store.shared = session.store.shared := by
  cases read : Catalog.ofFile session.store.installation session.store.files name <;>
    simp [step, loadAnswer, CatalogStore.load, CatalogStore.accept, read]

/-- Requests that are no use of the shared catalog leave it as it is, unless they forget it. -/
theorem shared_step_other (unused : request.use? session.limit = none)
    (kept : request ≠ .forget) :
    (session.step request).1.store.shared = session.store.shared := by
  cases request with
  | get | paths | validate | preview => cases unused
  | forget => exact absurd rfl kept
  | load name => exact session.shared_step_load name
  | configure | setLimit | isLoaded => rfl

/-- While a catalog is shared, every request but a reset sees it and leaves it shared. -/
theorem sees_of_shared (shared : session.store.shared = some loaded) (kept : request ≠ .forget) :
    session.Sees loaded request := by
  cases uses : request.use? session.limit with
  | none => exact ⟨(shared_step_other uses kept).trans shared, by simp [uses]⟩
  | some use =>
    -- The store is not touched at all, so what the answer turns out to be does not matter.
    have stepped := step_use uses
    rw [CatalogStore.get_shared shared] at stepped
    refine ⟨by rw [stepped, shared], fun other same => ?_⟩
    obtain rfl := Option.some.inj (uses.symm.trans same)
    rw [stepped]

/-- A preview for an unknown category fails only after the configured catalog has been loaded. -/
theorem step_preview_unknown {catalog : Catalog} {tree category : Value} {reason : RuleError}
    (unset : session.store.shared = none) (readable : session.store.readConfigured = .ok catalog)
    (unknown : category.toCategory = .error reason) :
    session.step (.preview tree category) =
      ({ session with store := { session.store with
        loads := session.store.loads + 1, shared := some ⟨session.store.loads, catalog⟩ } },
        .error reason) := by
  rw [step_use rfl, CatalogStore.get_readable unset readable]
  simp only [unknown]
  rfl

/-- While no catalog is shared, every request but a reset fails to load one or loads it. -/
theorem failsToLoad_or_loads (unset : session.store.shared = none) (kept : request ≠ .forget) :
    session.FailsToLoad request ∨ ∃ loaded, session.Loads request loaded := by
  cases uses : request.use? session.limit with
  | none => exact .inl ⟨(shared_step_other uses kept).trans unset, by simp [uses]⟩
  | some use =>
    have stepped := step_use uses
    cases readable : session.store.readConfigured with
    | error reason =>
      -- Nothing is kept of a failed load, so the next use tries again.
      rw [CatalogStore.get_unreadable unset readable] at stepped
      exact .inl ⟨by rw [stepped, unset], fun _ _ => ⟨reason, readable, stepped⟩⟩
    | ok catalog =>
      -- The catalog is shared before the answer is made from it.
      rw [CatalogStore.get_readable unset readable] at stepped
      refine .inr ⟨⟨session.store.loads, catalog⟩, by simp [uses], readable, by rw [stepped],
        fun other same => ?_⟩
      obtain rfl := Option.some.inj (uses.symm.trans same)
      rw [stepped]

/-- No request changes the shared catalog in any other way than to forget or to load it. -/
theorem changes (session : Session) (request : SessionRequest) : session.Changes request := by
  -- Whether a catalog is shared decides which of the two it is.
  have keeps_or_loads (kept : request ≠ .forget) :
      (session.step request).1.store.shared = session.store.shared ∨
        session.store.shared = none ∧ ∃ loaded, session.Loads request loaded := by
    cases shared : session.store.shared with
    | some loaded => exact .inl (sees_of_shared shared kept).1
    | none => exact (failsToLoad_or_loads shared kept).imp (·.1) (⟨rfl, ·⟩)
  cases request with
  | forget => rfl
  | _ => exact keeps_or_loads (by simp)

/-- A shared catalog is seen by all requests until the next reset. -/
theorem throughout_sees (shared : session.store.shared = some loaded)
    {requests : List SessionRequest} (kept : SessionRequest.forget ∉ requests) :
    session.Throughout (Sees loaded) requests := by
  induction requests generalizing session with
  | nil => trivial
  | cons request rest ih =>
    simp only [List.mem_cons, not_or] at kept
    -- The first request leaves the catalog shared, which is all that the others rely on.
    have sees := sees_of_shared shared (Ne.symm kept.1)
    exact ⟨sees, ih sees.1 kept.2⟩

/-- Requests that meet no shared catalog share the first one loaded, until the next reset. -/
theorem sharesFirst (unset : session.store.shared = none) {stretch : List SessionRequest}
    (kept : SessionRequest.forget ∉ stretch) : session.SharesFirst stretch := by
  induction stretch generalizing session with
  | nil => exact .inl trivial
  | cons request rest ih =>
    simp only [List.mem_cons, not_or] at kept
    rcases failsToLoad_or_loads unset (Ne.symm kept.1) with fails | ⟨loaded, loads⟩
    -- The first request that loads ends the idle part, and all later ones see what it loaded.
    · rcases ih fails.1 kept.2 with idle | ⟨idle, first, later, loaded, rfl, failing, loads⟩
      · exact .inl ⟨fails, idle⟩
      · exact .inr ⟨request :: idle, first, later, loaded, rfl, ⟨fails, failing⟩, loads⟩
    · refine .inr ⟨[], request, rest, loaded, rfl, trivial, loads, loads.sees, ?_⟩
      exact throughout_sees loads.sees.1 kept.2

/-- A request takes no file away, and what is configured is what was configured last. -/
theorem isOver_step {installation : Installation} {files : Files} {name : Option String}
    (based : session.store.IsOver installation files name)
    (request : SessionRequest) :
    (session.step request).1.store.IsOver installation files (lastConfigured name [request]) := by
  -- Uses go through the store's own lemma; of the others only one configures anything.
  cases uses : request.use? session.limit with
  | some use =>
    rw [step_use uses]
    cases request with
    | get | paths | validate | preview => exact based.get
    | _ => cases uses
  | none =>
    cases request with
    | get | paths | validate | preview => cases uses
    | load other => exact based.accept _
    | configure other => exact ⟨based.installation, based.files, rfl, based.fresh⟩
    | setLimit | isLoaded => exact based
    | forget =>
      exact ⟨based.installation, based.files, based.configured,
        fun _ forgotten => nomatch forgotten⟩

/-- After any requests the files are the same, and the file configured last is configured. -/
theorem isOver_after {installation : Installation} {files : Files} {name : Option String}
    (session : Session) (based : session.store.IsOver installation files name)
    (requests : List SessionRequest) :
    (session.after requests).store.IsOver installation files (lastConfigured name requests) := by
  -- The session is generalised, since every request leaves another one.
  induction requests generalizing session name with
  | nil => exact based
  | cons request rest ih =>
    -- The last configuration is that of the rest, or else that of the first request.
    have last : lastConfigured name (request :: rest) =
        lastConfigured (lastConfigured name [request]) rest := by
      cases request <;> rfl
    rw [last]
    exact ih _ (isOver_step based request)

/-- A catalog that is loaded from a file is another one than the shared one. -/
theorem shared_ne_of_load {installation : Installation} {files : Files} {name : Option String}
    (based : session.store.IsOver installation files name) {other : String}
    (answered : (session.step (.load other)).2 = .ok (.catalog loaded)) :
    Catalog.ofFile installation files other = .ok loaded.catalog ∧
      session.store.shared ≠ some loaded := by
  cases read : Catalog.ofFile session.store.installation session.store.files other with
  | error reason =>
    simp [step, loadAnswer, CatalogStore.load, CatalogStore.accept, read] at answered
  | ok catalog =>
    -- A loaded catalog gets the number of loads so far, which the shared one stays below.
    have numbered : loaded = ⟨session.store.loads, catalog⟩ := by
      simpa [step, loadAnswer, CatalogStore.load, CatalogStore.accept, read, eq_comm] using answered
    subst numbered
    exact ⟨based.installation ▸ based.files ▸ read,
      fun shared => Nat.lt_irrefl _ (based.fresh _ shared)⟩

/--
In any session, the catalog shared between two resets is the first one that can be loaded.

No request but a reset or the first successful use changes what is shared, and a catalog loaded
from a file for itself is never the shared one. What the installation reads plays no part in it.
-/
theorem session_shares (installation : Installation) (files : Files)
    (history : List SessionRequest) :
    let session := (start installation files).after history
    session.store.installation = installation ∧ session.store.files = files ∧
      session.store.configured = lastConfigured none history ∧
      (∀ request, session.Changes request) ∧
      (∀ name, (session.step (.load name)).1.store.shared = session.store.shared ∧
        ∀ loaded, (session.step (.load name)).2 = .ok (.catalog loaded) →
          Catalog.ofFile installation files name = .ok loaded.catalog ∧
            session.store.shared ≠ some loaded) ∧
      (session.store.shared = none → ∀ stretch, SessionRequest.forget ∉ stretch →
        session.SharesFirst stretch) := by
  intro session
  -- After any history the store still reads from the same files.
  have based : session.store.IsOver installation files (lastConfigured none history) :=
    isOver_after (start installation files) (.opened installation files) history
  exact ⟨based.installation, based.files, based.configured, session.changes,
    fun name => ⟨session.shared_step_load name, fun _ => shared_ne_of_load based⟩,
    fun unset _ => sharesFirst unset⟩

/-- The packaged catalog is shared after a failed load, a failed use and another configuration. -/
theorem session_shares_afterFailure :
    let session := (start .standard []).after [.configure (some "missing.json")]
    let stretch : List SessionRequest := [.get, .configure none, .preview .null (.text "other"),
      .setLimit 0, .configure (some "missing.json"), .get]
    session.store.shared = none ∧ session.SharesFirst stretch ∧
      ∃ reason, (session.run stretch).2 =
        [.error (.catalog reason), .ok .done, .error (.unknownCategory (.text "other")),
          .ok .done, .ok .done, .ok (.catalog ⟨0, .packaged⟩)] := by
  intro session stretch
  obtain ⟨_, _, _, _, _, shares⟩ :=
    session_shares .standard [] [.configure (some "missing.json")]
  obtain ⟨reason, unreadable⟩ := Catalog.ofFile_nil .standard "missing.json"
  have obtained : session.store.get = (session.store, .error reason) :=
    CatalogStore.get_unreadable rfl unreadable
  have failed : session.step .get = (session, .error (.catalog reason)) := by
    rw [step_use rfl, obtained]
  let opened : Session := { session with store := session.store.configure none }
  let shared : LoadedCatalog := ⟨0, .packaged⟩
  -- Without a configured name it is the packaged file that is loaded.
  have readable : opened.store.readConfigured = .ok .packaged := by
    show Catalog.ofPackagedFile .standard = .ok .packaged
    exact Installation.isIntact_standard
  -- The use that fails for its category has loaded the packaged catalog before.
  have used : opened.step (.preview .null (.text "other")) =
      ({ opened with store := { opened.store with loads := 1, shared := some shared } },
        .error (.unknownCategory (.text "other"))) :=
    step_preview_unknown rfl readable rfl
  have configured : session.step (.configure none) = (opened, .ok .done) := rfl
  refine ⟨rfl, shares rfl stretch (by simp [stretch]), reason, ?_⟩
  simp only [stretch, run, failed, configured, used]
  rfl

end Session

end DeliveryRules
