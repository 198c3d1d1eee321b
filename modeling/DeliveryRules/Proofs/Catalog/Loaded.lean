import DeliveryRules.Proofs.Catalog.Acceptance
import Mathlib.Data.List.Flatten
import Mathlib.Data.List.Nodup

/-! What a catalog made from a document can be relied on for: whole groups, and each path once. -/

namespace DeliveryRules

/-- A group belongs to a category, has the one or the other shape, and lends out its categories. -/
structure Group.IsSound (group : Group) : Prop where
  categorised : group.categories ≠ []
  leaf_iff : group.isLeaf = true ↔ group.fields = []
  kind_of_leaf : group.isLeaf = true → ∃ kind, group.kind = some kind
  kind_of_composite : group.isLeaf = false → group.kind = none
  lent : ∀ field ∈ group.fields, field.categories = group.categories

/-- A catalog has groups that are sound, and its paths may all be declared, each of them once. -/
structure Catalog.IsSound (catalog : Catalog) : Prop where
  filled : catalog.groups ≠ []
  sound : ∀ group ∈ catalog.groups, group.IsSound
  declarable : ∀ path ∈ catalog.allPaths, isDeclaredPath path = true
  distinct : catalog.allPaths.Nodup

/-- The path at a place of a catalog: in which group it is, and where among the paths of that. -/
def Catalog.pathAt? (catalog : Catalog) (place : Nat × Nat) : Option String :=
  catalog.groups[place.1]?.bind fun group => group.paths[place.2]?

/-- What follows for the second of two related things holds of all second things in a pairing. -/
theorem forall_of_forall₂ {α β : Type} {related : α → β → Prop} {property : β → Prop}
    {firsts : List α} {seconds : List β} (paired : List.Forall₂ related firsts seconds)
    (follows : ∀ first second, related first second → property second) :
    ∀ second ∈ seconds, property second := by
  -- The induction is on the pairing, so both lists are consumed together.
  induction paired with
  | nil => simp
  | cons first _ ih => exact List.forall_mem_cons.mpr ⟨follows _ _ first, ih⟩

/-- A group that is declared has categories, and one of the two shapes. -/
theorem DeclaresGroup.shaped {value : Value} {entry : GroupEntry}
    (declared : DeclaresGroup value entry) : entry.categories ≠ [] ∧ entry.IsShaped := by
  obtain ⟨_, _, filled, _, _, _, shaped⟩ := declared
  exact ⟨filled, shaped⟩

/-- A group that is declared declares paths that may be declared. -/
theorem DeclaresGroup.declarable {value : Value} {entry : GroupEntry}
    (declared : DeclaresGroup value entry) :
    ∀ path ∈ Schema.declaredPaths entry, isDeclaredPath path = true := by
  obtain ⟨_, _, _, _, _, fields, shaped⟩ := declared
  -- A leaf declares its name, and a group of fields declares what its fields do.
  cases shaped with
  | leaf leaf named => simpa [Schema.declaredPaths, leaf] using named
  | composite composite =>
    rw [composite] at fields
    cases fields with
    | found _ _ given =>
      obtain ⟨_, each⟩ := given
      simp only [Schema.declaredPaths, composite, List.forall_mem_map]
      refine forall_of_forall₂ each fun _ _ field => ?_
      obtain ⟨_, declarable, _, _⟩ := field
      exact declarable

/-- The groups of a declared catalog are declared one by one, and share no path. -/
theorem DeclaresCatalog.groups {value : Value} {entry : CatalogEntry}
    (declared : DeclaresCatalog value entry) :
    (∃ documents, List.Forall₂ DeclaresGroup documents entry.groups) ∧ entry.groups ≠ [] ∧
      (entry.groups.flatMap Schema.declaredPaths).Nodup := by
  -- A list and an object differ in where the groups stand, not in what they are.
  cases declared with
  | list each filled distinct => exact ⟨⟨_, each⟩, filled, distinct⟩
  | object _ member filled distinct =>
    obtain ⟨_, ⟨_, each⟩⟩ := member
    exact ⟨⟨_, each⟩, filled, distinct⟩

/-- What every declared group has, every group of a declared catalog has. -/
theorem DeclaresCatalog.forall_groups {property : GroupEntry → Prop} {value : Value}
    {entry : CatalogEntry} (declared : DeclaresCatalog value entry)
    (each : ∀ value group, DeclaresGroup value group → property group) :
    ∀ group ∈ entry.groups, property group := by
  obtain ⟨⟨documents, paired⟩, _, _⟩ := declared.groups
  exact forall_of_forall₂ paired each

namespace GroupEntry

variable {entry : GroupEntry}

/-- A group exposes the paths that it declares. -/
theorem IsShaped.paths_toGroup (shaped : entry.IsShaped) :
    entry.toGroup.paths = Schema.declaredPaths entry := by
  -- The entry has one of two shapes, and the group takes it over.
  cases shaped with
  | leaf leaf => simp [Group.paths, Group.isLeaf, toGroup, Schema.declaredPaths, leaf]
  | composite composite filled =>
    simp [Group.paths, Group.isLeaf, toGroup, Schema.declaredPaths, composite, filled,
      FieldEntry.toDescriptor, Function.comp_def]

/-- A declared group is sound. -/
theorem IsShaped.isSound_toGroup (shaped : entry.IsShaped) (filled : entry.categories ≠ []) :
    entry.toGroup.IsSound where
  categorised := filled
  leaf_iff := by simp [Group.isLeaf]
  kind_of_leaf := by
    -- A group without fields is a leaf, which was declared with a kind.
    intro leaf
    cases shaped with
    | leaf _ _ known => exact ⟨_, known⟩
    | composite composite filled => simp [Group.isLeaf, toGroup, composite, filled] at leaf
  kind_of_composite := by
    -- A group with fields was declared without a kind.
    intro composite
    cases shaped with
    | leaf leaf => simp [Group.isLeaf, toGroup, leaf] at composite
    | composite _ _ kindless => exact kindless
  lent := by
    -- Every field was made with the categories of its group.
    intro field member
    obtain ⟨declared, _, rfl⟩ := List.mem_map.mp member
    rfl

end GroupEntry

/-- A declared catalog has the paths that its groups declare. -/
theorem DeclaresCatalog.allPaths_toCatalog {value : Value} {entry : CatalogEntry}
    (declared : DeclaresCatalog value entry) (source : Option String) :
    (entry.toCatalog source).allPaths = entry.groups.flatMap Schema.declaredPaths := by
  simp only [Catalog.allPaths, CatalogEntry.toCatalog, List.flatMap_map]
  exact List.flatMap_congr <|
    declared.forall_groups fun _ _ declaredGroup => declaredGroup.shaped.2.paths_toGroup

/-- A declared catalog is sound. -/
theorem DeclaresCatalog.isSound_toCatalog {value : Value} {entry : CatalogEntry}
    (declared : DeclaresCatalog value entry) (source : Option String) :
    (entry.toCatalog source).IsSound where
  filled := by simpa [CatalogEntry.toCatalog] using declared.groups.2.1
  sound := by
    simp only [CatalogEntry.toCatalog, List.forall_mem_map]
    refine declared.forall_groups fun _ _ declaredGroup => ?_
    obtain ⟨filled, shaped⟩ := declaredGroup.shaped
    exact shaped.isSound_toGroup filled
  declarable := by
    rw [declared.allPaths_toCatalog]
    -- A path of the catalog is one that some group declares.
    intro path member
    obtain ⟨group, listed, exposed⟩ := List.mem_flatMap.mp member
    have declarable := declared.forall_groups fun _ _ declaredGroup => declaredGroup.declarable
    exact declarable group listed path exposed
  distinct := by
    rw [declared.allPaths_toCatalog]
    exact declared.groups.2.2

/-- The fields that a group exposes have the paths that it exposes. -/
theorem Group.map_path_descriptors (group : Group) :
    group.descriptors.map (·.path) = group.paths := by
  unfold descriptors paths
  split <;> rfl

namespace Catalog

variable {catalog : Catalog} {category : Category}

/-- The fields open to a category have the paths of its groups, in the order of the catalog. -/
theorem map_path_fieldsFor (catalog : Catalog) (category : Category) :
    (catalog.fieldsFor category).map (·.path) = catalog.pathsFor category := by
  simp only [fieldsFor, pathsFor, List.map_flatMap, Group.map_path_descriptors]

/-- A category can see some of the paths of a catalog, in the same order. -/
theorem pathsFor_sublist (catalog : Catalog) (category : Category) :
    List.Sublist (catalog.pathsFor category) catalog.allPaths :=
  List.filter_sublist.flatMap Group.paths

/-- Every path of a catalog is open to some category if every group belongs to one. -/
theorem mem_allPaths_iff (categorised : ∀ group ∈ catalog.groups, group.categories ≠ [])
    {path : String} :
    path ∈ catalog.allPaths ↔
      path ∈ catalog.pathsFor .providerSelection ∨ path ∈ catalog.pathsFor .quoteEvaluation := by
  -- A group that lists the path is open to some category, and there are only two.
  constructor
  · intro member
    obtain ⟨group, listed, exposed⟩ := List.mem_flatMap.mp member
    obtain ⟨category, applies⟩ := List.exists_mem_of_ne_nil _ (categorised group listed)
    have open_ : path ∈ catalog.pathsFor category :=
      List.mem_flatMap.mpr ⟨group, by simp [groupsFor, listed, Group.appliesTo, applies], exposed⟩
    cases category with
    | providerSelection => exact .inl open_
    | quoteEvaluation => exact .inr open_
  · rintro (member | member)
    · exact (catalog.pathsFor_sublist _).mem member
    · exact (catalog.pathsFor_sublist _).mem member

/-- A field open to a category has it among its own, if groups lend their categories. -/
theorem mem_categories_of_mem_fieldsFor (sound : ∀ group ∈ catalog.groups, group.IsSound)
    {field : Descriptor} (listed : field ∈ catalog.fieldsFor category) :
    category ∈ field.categories := by
  obtain ⟨group, member, exposed⟩ := List.mem_flatMap.mp listed
  obtain ⟨listed, applies⟩ := List.mem_filter.mp member
  have belongs : category ∈ group.categories := by simpa [Group.appliesTo] using applies
  -- A leaf exposes a field made of its own facts, any other group the fields that it holds.
  unfold Group.descriptors at exposed
  split at exposed
  · rw [List.mem_singleton.mp exposed]
    exact belongs
  · rw [(sound group listed).lent field exposed]
    exact belongs

/-- A path at a place is one of the paths of the group that the place is in. -/
theorem pathAt?_eq_some {place : Nat × Nat} {path : String} :
    catalog.pathAt? place = some path ↔
      ∃ group, catalog.groups[place.1]? = some group ∧ group.paths[place.2]? = some path := by
  simp [pathAt?, Option.bind_eq_some_iff]

/-- Among paths that are all different, each is at one place only. -/
theorem existsUnique_pathAt? (distinct : catalog.allPaths.Nodup) {path : String}
    (member : path ∈ catalog.allPaths) : ∃! place, catalog.pathAt? place = some path := by
  obtain ⟨within, apart⟩ := List.nodup_flatMap.mp distinct
  rw [List.pairwise_iff_getElem] at apart
  obtain ⟨group, listed, exposed⟩ := List.mem_flatMap.mp member
  -- The path has some place; any other place is compared with it, first the groups, then inside.
  obtain ⟨i, known⟩ := List.getElem?_of_mem listed
  obtain ⟨j, found⟩ := List.getElem?_of_mem exposed
  refine ⟨(i, j), pathAt?_eq_some.mpr ⟨group, known, found⟩, ?_⟩
  rintro ⟨i', j'⟩ elsewhere
  obtain ⟨group', known', found'⟩ := pathAt?_eq_some.mp elsewhere
  obtain ⟨inside, rfl⟩ := List.getElem?_eq_some_iff.mp known
  obtain ⟨inside', rfl⟩ := List.getElem?_eq_some_iff.mp known'
  have exposed' := List.mem_of_getElem? found'
  -- Two groups at different places would share the path.
  rcases Nat.lt_trichotomy i' i with earlier | rfl | later
  · exact absurd exposed (apart i' i inside' inside earlier exposed')
  · obtain ⟨place, _⟩ := List.getElem?_eq_some_iff.mp found'
    have same : j' = j := (List.getElem?_inj place (within _ listed)).mp (found'.trans found.symm)
    rw [same]
  · exact absurd exposed' (apart i i' inside inside' later exposed)

/-- A catalog is sound once it is loaded. -/
theorem isSound_of_ofValue {strict : Bool} {source : Option String} {value : Value}
    (loaded : ofValue strict source value = .ok catalog) : catalog.IsSound := by
  obtain ⟨_, entry, declared, rfl⟩ := ofValue_eq_ok_iff.mp loaded
  exact declared.isSound_toCatalog source

/--
A loaded catalog lists every path once, and each of its groups can be relied on.

What rules of a category may refer to is listed in the order of the groups, without repetition.
-/
theorem ofValue_guarantees {strict : Bool} {source : Option String} {value : Value}
    (loaded : ofValue strict source value = .ok catalog) :
    catalog.allPaths.Nodup ∧
      (∀ path ∈ catalog.allPaths, ∃! place, catalog.pathAt? place = some path) ∧
      (∀ group ∈ catalog.groups, group.IsSound) ∧
      (∀ category,
        let paths := (catalog.fieldsFor category).map (·.path)
        paths.Nodup ∧
          paths = (catalog.groups.filter (category ∈ ·.categories)).flatMap Group.paths ∧
          (∀ path, path ∈ paths ↔ path ∈ catalog.pathsFor category) ∧
          ∀ field ∈ catalog.fieldsFor category, category ∈ field.categories) ∧
      ∀ path, path ∈ catalog.allPaths ↔
        path ∈ catalog.pathsFor .providerSelection ∨
          path ∈ catalog.pathsFor .quoteEvaluation := by
  obtain ⟨_, sound, _, distinct⟩ := isSound_of_ofValue loaded
  refine ⟨distinct, fun path => existsUnique_pathAt? distinct, sound, fun category => ?_,
    fun path => mem_allPaths_iff fun group member => (sound group member).categorised⟩
  -- The fields of a category are brought back to its paths, which are a part of all.
  intro paths
  have listed : paths = catalog.pathsFor category := map_path_fieldsFor catalog category
  rw [listed]
  refine ⟨distinct.sublist (pathsFor_sublist _ category), ?_, fun path => Iff.rfl,
    fun field => mem_categories_of_mem_fieldsFor sound⟩
  simp [pathsFor, groupsFor, Group.appliesTo]

/-- An older document with a leaf and a group of two fields is loaded by a reader not strict. -/
theorem ofValue_guarantees_quotes :
    let both : Value := .list [.text "quote_evaluation", .text "provider_selection"]
    let leaf : Value := .object [("name", .text "city"), ("kind", .text "string"),
      ("categories", .list [.text "provider_selection"])]
    let quotes : Value := .object [("name", .text "quotes"), ("categories", both),
      ("kind", .null), ("fields", .tuple [
        .object [("path", .text "quotes[].fee"), ("kind", .text "number")],
        .object [("path", .text "quotes[].provider"), ("kind", .text "string")]])]
    let document : Value :=
      .object [("schema_version", .text "0.9"), ("groups", .list [leaf, quotes])]
    ∃ catalog, ofValue false none document = .ok catalog ∧
      catalog.allPaths = ["city", "quotes[].fee", "quotes[].provider"] ∧
      (∃! place, catalog.pathAt? place = some "quotes[].fee") ∧
      ∀ group ∈ catalog.groups, group.IsSound := by
  intro both leaf quotes document
  -- What is loaded is found by evaluation, and the law is applied to it.
  have loaded : ofValue false none document = .ok ⟨[
      ⟨"city", [.providerSelection], [], some .string, none⟩,
      ⟨"quotes", [.quoteEvaluation, .providerSelection],
        [⟨"quotes[].fee", .number, [.quoteEvaluation, .providerSelection], none⟩,
          ⟨"quotes[].provider", .string, [.quoteEvaluation, .providerSelection], none⟩],
        none, none⟩], "0.9", none⟩ := rfl
  obtain ⟨_, once, sound, _⟩ := ofValue_guarantees loaded
  exact ⟨_, loaded, rfl, once _ (by decide), sound⟩

end Catalog

end DeliveryRules
