import DeliveryRules.Catalog.Packaged
import DeliveryRules.Proofs.Catalog.Loaded
import DeliveryRules.Proofs.Json.RoundTrip

/-! A catalog that was loaded can be written and loaded again; only empty descriptions get lost. -/

namespace DeliveryRules

/-- A description that says something. -/
def spokenDescription (description : Option String) : Option String :=
  description.filter (· != "")

/-- A field as it comes back from writing: without a description that is empty. -/
def Descriptor.rewritten (descriptor : Descriptor) : Descriptor :=
  { descriptor with description := spokenDescription descriptor.description }

/-- A group as it comes back from writing: without descriptions that are empty. -/
def Group.rewritten (group : Group) : Group :=
  { group with
    fields := group.fields.map Descriptor.rewritten
    description := spokenDescription group.description }

/-- Writing a description again writes what was written before. -/
@[simp] theorem descriptionMember_spoken (description : Option String) :
    descriptionMember (spokenDescription description) = descriptionMember description := by
  cases description with
  | none => rfl
  | some text =>
    -- An empty description is left out the first time, and is absent the second time.
    by_cases empty : text = "" <;>
      simp [spokenDescription, descriptionMember, Option.filter, empty]

/-- Writing a field that was written before makes the same document. -/
@[simp] theorem Descriptor.toValue_rewritten (descriptor : Descriptor) :
    descriptor.rewritten.toValue = descriptor.toValue := by
  simp [toValue, rewritten]

/-- A description is at most one member, and its value is a text. -/
theorem descriptionMember_spec (description : Option String) :
    List.Sublist ((descriptionMember description).map Prod.fst) ["description"] ∧
      ∀ member ∈ descriptionMember description, member.2.IsVerbal := by
  -- A description is left out where it is absent or empty, and is a member otherwise.
  unfold descriptionMember
  split
  · simp
  · simp
  · simpa using Value.IsVerbal.text _

/-- What the document of a field declares. -/
def Descriptor.toEntry (descriptor : Descriptor) : FieldEntry :=
  ⟨descriptor.path, descriptor.kind, spokenDescription descriptor.description⟩

/-- What the document of a group declares. -/
def Group.toEntry (group : Group) : GroupEntry where
  name := group.name
  categories := group.categories
  kind := if group.isLeaf then some group.leafKind else none
  description := spokenDescription group.description
  fields := if group.isLeaf then none else some (group.fields.map Descriptor.toEntry)

/-- The first member is found under its key, and hides later ones. -/
theorem Members.lookup_cons (name : String) (value : Value) (rest : Members) (key : String) :
    List.lookup key ((name, value) :: rest) =
      if key = name then some value else rest.lookup key := by
  by_cases named : key = name
  · simp [named]
  · simp [List.lookup_cons, beq_false_of_ne named, named]

/-- A description is written as a member of its own, unless it is absent or empty. -/
theorem lookup_descriptionMember (description : Option String) (key : String) :
    (descriptionMember description).lookup key =
      if key = "description" then (spokenDescription description).map .text else none := by
  -- The description counts as absent when it is empty, on both sides of the equation.
  cases description with
  | none => simp [descriptionMember, spokenDescription]
  | some text =>
    by_cases empty : text = ""
    · subst empty
      simp [descriptionMember, spokenDescription, Option.filter]
    · have kept : spokenDescription (some text) = some text := by
        simp [spokenDescription, Option.filter, empty]
      have written : descriptionMember (some text) = [("description", .text text)] := by
        simp [descriptionMember]
      rw [kept, written, Members.lookup_cons]
      rfl

/-- The written description of a thing is the one it has, if it says something. -/
theorem mayGiveMember_description {members : Members} {description : Option String}
    (written : members.lookup "description" = (spokenDescription description).map .text) :
    MayGiveMember GivesText members "description" (spokenDescription description) := by
  -- Without a word to say the member is absent, which the declaration lets pass.
  cases said : spokenDescription description with
  | none => exact .absent (by simp [written, said])
  | some text => exact .found (by rw [written, said]; rfl) (by simp) (.text text)

/-- The document of a field declares the field, if its path may be declared. -/
theorem Descriptor.declaresField_toValue {descriptor : Descriptor}
    (declarable : isDeclaredPath descriptor.path = true) :
    DeclaresField descriptor.toValue descriptor.toEntry := by
  -- The path and the kind stand in front, so only the description has to be looked for.
  refine .object (.found rfl (.text _)) declarable (.found rfl (.text _))
    (mayGiveMember_description ?_)
  simp [List.lookup_cons, lookup_descriptionMember]

/-- The document of a field holds no numbers. -/
theorem Descriptor.isVerbal_toValue (descriptor : Descriptor) : descriptor.toValue.IsVerbal := by
  -- The keys are different because the description adds one more at most.
  obtain ⟨keyed, verbal⟩ := descriptionMember_spec descriptor.description
  refine .object ?_ ?_
  · have keys : List.Sublist (["path", "kind"] ++
        (descriptionMember descriptor.description).map Prod.fst) ["path", "kind", "description"] :=
      (List.Sublist.refl ["path", "kind"]).append keyed
    simpa using List.Nodup.sublist keys (by decide)
  · simp only [List.forall_mem_append, List.forall_mem_cons]
    exact ⟨⟨.text _, .text _, by simp⟩, verbal⟩

/-- The documents of some fields declare the fields. -/
theorem forall₂_declaresField {fields : List Descriptor}
    (declarable : ∀ field ∈ fields, isDeclaredPath field.path = true) :
    List.Forall₂ DeclaresField (fields.map Descriptor.toValue) (fields.map Descriptor.toEntry) := by
  rw [List.forall₂_map_left_iff, List.forall₂_map_right_iff, List.forall₂_same]
  exact fun field member => field.declaresField_toValue (declarable field member)

/-- The words of some categories give the categories. -/
theorem forall₂_givesWord (categories : List Category) :
    List.Forall₂ (GivesWord Category.word)
      (categories.map fun category => .text category.word) categories := by
  rw [List.forall₂_map_left_iff, List.forall₂_same]
  exact fun category _ => .text category

namespace Group

variable {group : Group}

/-- The members of a group's document: what every group has, then what tells its shape. -/
def membersWith (group : Group) (label : String) (shape : Value) : Members :=
  [("name", .text group.name),
    ("categories", .list (group.categories.map fun category => .text category.word))] ++
    descriptionMember group.description ++ [(label, shape)]

/-- What is found in the document of a group, key by key. -/
theorem lookup_membersWith (group : Group) (label : String) (shape : Value)
    (apart : label ≠ "description") (key : String) :
    (group.membersWith label shape).lookup key =
      if key = "name" then some (.text group.name)
      else if key = "categories" then
        some (.list (group.categories.map fun category => .text category.word))
      else if key = "description" then (spokenDescription group.description).map .text
      else if key = label then some shape else none := by
  rw [membersWith, List.lookup_append, List.lookup_append, lookup_descriptionMember,
    Members.lookup_cons, Members.lookup_cons, Members.lookup_cons, List.lookup_nil]
  -- The key is compared with one label after the other, in the order of the members.
  by_cases name : key = "name"
  · simp [name]
  by_cases categories : key = "categories"
  · simp [categories]
  by_cases description : key = "description"
  · simp [description, apart.symm]
  · simp [name, categories, description]

/-- A leaf is written with its kind. -/
theorem toValue_leaf (leaf : group.isLeaf = true) :
    group.toValue = .object (group.membersWith "kind" (.text group.leafKind.word)) := by
  simp [toValue, leaf, membersWith]

/-- A group of fields is written with them. -/
theorem toValue_composite (composite : group.isLeaf = false) :
    group.toValue =
      .object (group.membersWith "fields" (.list (group.fields.map Descriptor.toValue))) := by
  simp [toValue, composite, membersWith]

/-- The document of a group holds no numbers, whatever it tells its shape by. -/
theorem isVerbal_membersWith {label : String} {shape : Value} (verbal : shape.IsVerbal)
    (apart : label ∉ ["name", "categories", "description"]) :
    (Value.object (group.membersWith label shape)).IsVerbal := by
  -- All keys but the last are fixed, and the last is told apart from them by assumption.
  obtain ⟨keyed, described⟩ := descriptionMember_spec group.description
  refine .object ?_ ?_
  · have keys : List.Sublist ((group.membersWith label shape).map Prod.fst)
        (["name", "categories"] ++ ["description"] ++ [label]) := by
      simp only [membersWith, List.map_append]
      exact ((List.Sublist.refl _).append keyed).append (.refl _)
    exact List.Nodup.sublist keys (by simpa [eq_comm] using apart)
  · -- Each member is a text, a list of texts, or what the shape is told by.
    simp only [membersWith, List.forall_mem_append, List.forall_mem_cons]
    refine ⟨⟨⟨.text _, .list ?_, by simp⟩, described⟩, verbal, by simp⟩
    simpa using fun category _ => Value.IsVerbal.text _

/-- The document of a group holds no numbers. -/
theorem isVerbal_toValue (group : Group) : group.toValue.IsVerbal := by
  -- The shape is told by the kind of a leaf, or by the list of the fields of a group.
  cases leaf : group.isLeaf with
  | true =>
    rw [toValue_leaf leaf]
    exact isVerbal_membersWith (.text _) (by decide)
  | false =>
    rw [toValue_composite leaf]
    refine isVerbal_membersWith (.list ?_) (by decide)
    simpa using fun field _ => Descriptor.isVerbal_toValue field

/-- The document of a group declares the group, if its paths may be declared. -/
theorem declaresGroup_toValue (categorised : group.categories ≠ [])
    (declarable : ∀ path ∈ group.paths, isDeclaredPath path = true) :
    DeclaresGroup group.toValue group.toEntry := by
  -- The two shapes differ in the last member only, which is read as the kind or as the fields.
  cases leaf : group.isLeaf with
  | true =>
    have named : isDeclaredPath group.name = true := by
      simpa [paths, leaf] using declarable
    rw [toValue_leaf leaf]
    have found := group.lookup_membersWith "kind" (.text group.leafKind.word) (by decide)
    have kind : group.toEntry.kind = some group.leafKind := by simp [toEntry, leaf]
    have fields : group.toEntry.fields = none := by simp [toEntry, leaf]
    refine .object (.found (found "name") (.text _))
      (.found (found "categories") (.elements rfl (forall₂_givesWord _))) categorised ?_
      (mayGiveMember_description (found "description")) ?_ (.leaf fields named kind)
    · rw [kind]
      exact .found (found "kind") (by simp) (.text _)
    · rw [fields]
      exact .absent (found "fields")
  | false =>
    have filled : group.fields ≠ [] := by simpa [isLeaf] using leaf
    rw [toValue_composite leaf]
    have found := group.lookup_membersWith "fields"
      (.list (group.fields.map Descriptor.toValue)) (by decide)
    have kind : group.toEntry.kind = none := by simp [toEntry, leaf]
    have fields : group.toEntry.fields = some (group.fields.map Descriptor.toEntry) := by
      simp [toEntry, leaf]
    refine .object (.found (found "name") (.text _))
      (.found (found "categories") (.elements rfl (forall₂_givesWord _))) categorised ?_
      (mayGiveMember_description (found "description")) ?_
      (.composite fields (by simpa using filled) kind)
    · rw [kind]
      exact .absent (found "kind")
    · rw [fields]
      refine .found (found "fields") (by simp) (.elements rfl (forall₂_declaresField ?_))
      simpa [paths, leaf] using declarable

/-- What a sound group is read back as is the group again, without empty descriptions. -/
theorem toGroup_toEntry (sound : group.IsSound) : group.toEntry.toGroup = group.rewritten := by
  -- A sound group is all in one shape, so what the other shape would have is not there.
  cases leaf : group.isLeaf with
  | true =>
    obtain ⟨kind, known⟩ := sound.kind_of_leaf leaf
    have fieldless : group.fields = [] := sound.leaf_iff.mp leaf
    simp [GroupEntry.toGroup, toEntry, rewritten, leaf, leafKind, known, fieldless]
  | false =>
    have kindless : group.kind = none := sound.kind_of_composite leaf
    -- The group lends its categories to the fields again, which had them from it before.
    have lent : ∀ field ∈ group.fields,
        field.toEntry.toDescriptor group.categories = field.rewritten := fun field member => by
      rw [← sound.lent field member]
      rfl
    simp only [GroupEntry.toGroup, toEntry, rewritten, leaf, kindless, Bool.false_eq_true, if_false,
      Option.getD_some, List.map_map, Group.mk.injEq, true_and, and_true]
    exact List.map_congr_left lent

/-- The document of a group declares the paths that the group exposes. -/
theorem declaredPaths_toEntry (group : Group) :
    Schema.declaredPaths group.toEntry = group.paths := by
  -- A leaf declares its own name as a path, and a group the paths of its fields.
  cases leaf : group.isLeaf <;>
    simp [Schema.declaredPaths, toEntry, paths, leaf, Descriptor.toEntry, Function.comp_def]

/-- A group exposes the same paths once it is written and read. -/
@[simp] theorem paths_rewritten (group : Group) : group.rewritten.paths = group.paths := by
  simp [paths, isLeaf, rewritten, Descriptor.rewritten, Function.comp_def]

/-- A group exposes the fields it exposed, as each comes back. -/
theorem descriptors_rewritten (group : Group) :
    group.rewritten.descriptors = group.descriptors.map Descriptor.rewritten := by
  -- The field that a leaf exposes is made from the group, not from a list of fields.
  cases leaf : group.isLeaf with
  | true =>
    have fieldless : group.fields = [] := by simpa [isLeaf] using leaf
    simp [descriptors, isLeaf, rewritten, fieldless, Descriptor.rewritten, leafKind]
  | false =>
    have filled : group.fields ≠ [] := by simpa [isLeaf] using leaf
    simp [descriptors, isLeaf, rewritten, filled]

/-- Writing a group that was written before makes the same document. -/
@[simp] theorem toValue_rewritten (group : Group) : group.rewritten.toValue = group.toValue := by
  -- The document is made of parts, none of which sees a description that is empty.
  have fields : group.rewritten.fields.map Descriptor.toValue =
      group.fields.map Descriptor.toValue := by
    simp [rewritten, Function.comp_def]
  have leaf : group.rewritten.isLeaf = group.isLeaf := by simp [isLeaf, rewritten]
  have kind : group.rewritten.leafKind = group.leafKind := rfl
  simp only [toValue, leaf, kind, fields]
  simp [rewritten]

end Group

namespace Catalog

variable {catalog : Catalog}

/-- A catalog as it comes back from writing: its groups in order, and the current version. -/
def rewritten (catalog : Catalog) (source : Option String) : Catalog :=
  ⟨catalog.groups.map Group.rewritten, DeliveryRules.schemaVersion, source⟩

/-- A catalog exposes the same paths once it is written and read. -/
@[simp] theorem allPaths_rewritten (source : Option String) :
    (catalog.rewritten source).allPaths = catalog.allPaths := by
  simp [allPaths, rewritten, List.flatMap_map]

/-- The document of a catalog holds no numbers. -/
theorem isVerbal_toValue (catalog : Catalog) : catalog.toValue.IsVerbal :=
  .list (by simpa using fun group _ => Group.isVerbal_toValue group)

/-- The document of a sound catalog is read as what comes back from writing. -/
theorem IsSound.ofValue_toValue (sound : catalog.IsSound) (strict : Bool)
    (source : Option String) :
    ofValue strict source catalog.toValue = .ok (catalog.rewritten source) := by
  -- The document declares an entry, and the entry makes the catalog that comes back.
  let entry : CatalogEntry := ⟨DeliveryRules.schemaVersion, catalog.groups.map Group.toEntry⟩
  have groups : entry.toCatalog source = catalog.rewritten source := by
    simp only [CatalogEntry.toCatalog, rewritten, entry, List.map_map, mk.injEq, and_true]
    exact List.map_congr_left fun group member => Group.toGroup_toEntry (sound.sound group member)
  -- Each group declares itself, and the paths of all of them are different as they were before.
  have declared : DeclaresCatalog catalog.toValue entry := by
    refine .list ?_ (by simpa [entry] using sound.filled) ?_
    · rw [List.forall₂_map_left_iff, List.forall₂_map_right_iff, List.forall₂_same]
      intro group member
      refine Group.declaresGroup_toValue (sound.sound group member).categorised fun path exposed =>
        sound.declarable path (List.mem_flatMap.mpr ⟨group, member, exposed⟩)
    · simpa [entry, List.flatMap_map, Group.declaredPaths_toEntry, allPaths] using sound.distinct
  rw [← groups]
  refine ofValue_eq_ok_iff.mpr ⟨?_, entry, declared, rfl⟩
  -- A list of groups declares no version at all.
  intro _ members object
  cases object

/-- The groups for a category are the ones they were, as each comes back. -/
theorem groupsFor_rewritten (catalog : Catalog) (source : Option String) (category : Category) :
    (catalog.rewritten source).groupsFor category =
      (catalog.groupsFor category).map Group.rewritten := by
  simp only [groupsFor, rewritten, List.filter_map]
  rfl

/-- A catalog that was written and read is written as it was before. -/
theorem serialize_rewritten (catalog : Catalog) (source : Option String) :
    (catalog.rewritten source).serialize = catalog.serialize := by
  -- The text is made from the document alone.
  have document : (catalog.rewritten source).toValue = catalog.toValue := by
    simp [toValue, rewritten, Function.comp_def]
  rw [serialize, document, serialize]

/--
A loaded catalog loads again from its own document, and from its own text.

Its groups come back in order with all that they had, but for descriptions that are empty; so the
same paths and fields are found in it, and it is written as the same text.
-/
theorem loaded_roundTrip {strict : Bool} {source : Option String} {value : Value}
    (loaded : ofValue strict source value = .ok catalog) (again : Bool) (origin : Option String)
    (installation : Installation) :
    ∃ reloaded, ofValue again origin catalog.toValue = .ok reloaded ∧
      ofText installation catalog.serialize "json" =
        .ok { reloaded with source := some "<string>" } ∧
      reloaded.groups = catalog.groups.map Group.rewritten ∧
      (∀ category, reloaded.pathsFor category = catalog.pathsFor category ∧
        reloaded.fieldsFor category =
          (catalog.fieldsFor category).map Descriptor.rewritten) ∧
      (∀ name, reloaded.group? name = (catalog.group? name).map Group.rewritten) ∧
      reloaded.allPaths = catalog.allPaths ∧ reloaded.serialize = catalog.serialize := by
  -- Whatever the catalog was loaded from, it is sound, and that is all the rest relies on.
  have sound := isSound_of_ofValue loaded
  have read : ofText installation catalog.serialize "json" =
      .ok (catalog.rewritten (some "<string>")) := by
    have json : lowerAscii "json" = "json" := String.toList_inj.mp (by simp [lowerAscii])
    -- The text is read as the document that it was written for.
    have document := Json.read_indented (isVerbal_toValue catalog) .ascii
    simp only [ofText, json, if_true, serialize, document, ofReading]
    exact sound.ofValue_toValue true _
  refine ⟨catalog.rewritten origin, sound.ofValue_toValue again origin, read, rfl,
    fun category => ⟨?_, ?_⟩, fun name => ?_, allPaths_rewritten origin,
    serialize_rewritten catalog origin⟩
  · -- The queries go through the groups, which come back in the same order.
    simp [pathsFor, groupsFor_rewritten, List.flatMap_map]
  · simp [fieldsFor, groupsFor_rewritten, List.flatMap_map, List.map_flatMap,
      Group.descriptors_rewritten]
  · simp only [group?, rewritten, List.find?_map]
    rfl

/-- An older catalog is the same when it is loaded again, but for a description that is empty. -/
theorem loaded_roundTrip_quotes :
    let both : Value := .list [.text "quote_evaluation", .text "provider_selection"]
    let leaf : Value := .object [("name", .text "city"), ("kind", .text "string"),
      ("categories", .tuple [.text "provider_selection"]), ("description", .text "")]
    let quotes : Value := .object [("name", .text "quotes"), ("categories", both),
      ("description", .text "Says \"how much\"\n"), ("fields", .list [
        .object [("path", .text "quotes[].fee"), ("kind", .text "number")]])]
    let document : Value :=
      .object [("schema_version", .text "0.9"), ("groups", .list [leaf, quotes])]
    ∃ catalog reloaded, ofValue false none document = .ok catalog ∧
      catalog.groups.map (·.description) = [some "", some "Says \"how much\"\n"] ∧
      ofText .standard catalog.serialize "json" = .ok reloaded ∧
      reloaded.groups.map (·.description) = [none, some "Says \"how much\"\n"] ∧
      reloaded.serialize = catalog.serialize := by
  intro both leaf quotes document
  -- The document is loaded once by evaluation, and the rest follows from the general law.
  have loaded : ofValue false none document = .ok ⟨[
      ⟨"city", [.providerSelection], [], some .string, some ""⟩,
      ⟨"quotes", [.quoteEvaluation, .providerSelection],
        [⟨"quotes[].fee", .number, [.quoteEvaluation, .providerSelection], none⟩],
        none, some "Says \"how much\"\n"⟩], "0.9", none⟩ := rfl
  obtain ⟨reloaded, _, read, groups, _, _, _, written⟩ :=
    loaded_roundTrip loaded true none .standard
  refine ⟨_, _, loaded, rfl, read, ?_, written⟩
  rw [groups]
  rfl

end Catalog

end DeliveryRules
