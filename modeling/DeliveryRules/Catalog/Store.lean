import DeliveryRules.Catalog.Loader

/-! The one catalog shared by all uses: loaded on first use, then kept until it is forgotten. -/

namespace DeliveryRules

/-- A catalog together with the number of loads that had succeeded before its own. -/
structure LoadedCatalog where
  serial : Nat
  catalog : Catalog
deriving DecidableEq

/-- Where catalogs come from, and the shared one once it has been loaded. -/
structure CatalogStore where
  installation : Installation
  files : Files
  -- Without a configured file the packaged one is read.
  configured : Option String
  shared : Option LoadedCatalog
  loads : Nat

namespace CatalogStore

/-- A store that has loaded nothing and is set to the packaged catalog. -/
def start (installation : Installation) (files : Files) : CatalogStore :=
  ⟨installation, files, none, none, 0⟩

/-- The store set to another file; a catalog that is already shared stays. -/
def configure (store : CatalogStore) (name : Option String) : CatalogStore :=
  { store with configured := name }

/-- The store with its shared catalog forgotten. -/
def forget (store : CatalogStore) : CatalogStore := { store with shared := none }

/-- Whether a catalog is being shared. -/
def isLoaded (store : CatalogStore) : Bool := store.shared.isSome

/-- The catalog that the store is set to. -/
def readConfigured (store : CatalogStore) : Except CatalogError Catalog :=
  match store.configured with
  | none => Catalog.ofPackagedFile store.installation
  | some name => Catalog.ofFile store.installation store.files name

/-- A catalog that was just read, numbered; a failed reading changes nothing. -/
def accept (store : CatalogStore) (outcome : Except CatalogError Catalog) :
    CatalogStore × Except CatalogError LoadedCatalog :=
  match outcome with
  | .error reason => (store, .error reason)
  | .ok catalog => ({ store with loads := store.loads + 1 }, .ok ⟨store.loads, catalog⟩)

/-- The shared catalog, which is loaded only if there is none. -/
def get (store : CatalogStore) : CatalogStore × Except CatalogError LoadedCatalog :=
  match store.shared with
  | some loaded => (store, .ok loaded)
  | none =>
    match store.accept store.readConfigured with
    | (next, .ok loaded) => ({ next with shared := some loaded }, .ok loaded)
    | (next, .error reason) => (next, .error reason)

/-- The catalog of a file, which is not shared. -/
def load (store : CatalogStore) (name : String) :
    CatalogStore × Except CatalogError LoadedCatalog :=
  store.accept (Catalog.ofFile store.installation store.files name)

end CatalogStore

end DeliveryRules
