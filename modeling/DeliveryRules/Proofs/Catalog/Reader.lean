import DeliveryRules.Proofs.Catalog.Declaration
import Mathlib.Data.List.Nodup

/-! The reader of catalog documents finds exactly what they declare, and else reports issues. -/

namespace DeliveryRules

/-- A word names a kind of field exactly if it is the word for it. -/
theorem FieldKind.ofWord?_eq_some (text : String) (kind : FieldKind) :
    ofWord? text = some kind ↔ kind.word = text := by
  -- The search goes by the word, and each kind finds itself before any other.
  constructor
  · intro found
    simpa using List.find?_some found
  · rintro rfl
    cases kind <;> rfl

/-- A word names a category exactly if it is the word for it. -/
theorem Category.ofWord?_eq_some (text : String) (category : Category) :
    ofWord? text = some category ↔ category.word = text := by
  -- The search goes by the word, and each category finds itself before the other.
  constructor
  · intro found
    simpa using List.find?_some found
  · rintro rfl
    cases category <;> rfl

namespace Checked

/-- A check finds exactly what is given, and reports at least one issue where nothing is. -/
structure Exact {α : Type} (outcome : Checked α) (given : α → Prop) : Prop where
  ok_iff : ∀ content, outcome = .ok content ↔ given content
  reported : outcome ≠ .error []

variable {α β : Type}

/-- A single issue is exact where nothing is given. -/
theorem Exact.fail {kind : IssueKind} {location : List DocumentStep} {input : Value}
    {given : α → Prop} (nothing : ∀ content, ¬given content) :
    Exact (Checked.fail kind location input) given :=
  ⟨fun content => ⟨fun found => (nomatch found), fun held => absurd held (nothing content)⟩,
    fun silent => (nomatch silent)⟩

/-- A result is exact where it is the one thing given. -/
theorem Exact.ok {result : α} {given : α → Prop}
    (only : ∀ content, given content ↔ content = result) : Exact (.ok result) given := by
  refine ⟨fun content => ?_, fun silent => (nomatch silent)⟩
  rw [only content, Except.ok.injEq, eq_comm]

/-- What exact checks find may be described in other words. -/
theorem Exact.congr {outcome : Checked α} {given given' : α → Prop} (exact : Exact outcome given)
    (same : ∀ content, given content ↔ given' content) : Exact outcome given' :=
  ⟨fun content => (exact.ok_iff content).trans (same content), exact.reported⟩

/-- Two checks side by side find what each of them finds. -/
theorem Exact.both {first : Checked α} {second : Checked β} {given : α → Prop}
    {given' : β → Prop} (exact : Exact first given) (exact' : Exact second given') :
    Exact (Checked.both first second) fun pair => given pair.1 ∧ given' pair.2 := by
  refine ⟨fun pair => ?_, fun silent => ?_⟩
  · rw [← exact.ok_iff, ← exact'.ok_iff]
    cases first <;> cases second <;> simp [Checked.both, Prod.ext_iff]
  · -- The issues of both are kept, so there are some if either check has any.
    have some := exact.reported
    have some' := exact'.reported
    cases first <;> cases second <;> simp_all [Checked.both]

/-- A changed result is exact for what it is made from. -/
theorem Exact.map {outcome : Checked α} {given : α → Prop} {given' : β → Prop} {change : α → β}
    (exact : Exact outcome given)
    (same : ∀ content, given' content ↔ ∃ origin, given origin ∧ content = change origin) :
    Exact (outcome.map change) given' := by
  -- A change of the result neither makes nor removes issues.
  refine ⟨fun content => ?_, fun silent => ?_⟩
  · simp only [same, ← exact.ok_iff]
    cases outcome <;> simp [Except.map, eq_comm]
  · have some := exact.reported
    cases outcome <;> simp_all [Except.map]

/-- A check that turns some results of an exact one into an issue finds the others. -/
theorem Exact.narrow {outcome outcome' : Checked α} {given : α → Prop}
    (exact : Exact outcome given) (accepted : α → Prop)
    (kept : ∀ content, outcome = .ok content → accepted content → outcome' = .ok content)
    (refused : ∀ content, outcome = .ok content → ¬accepted content →
      ∃ kind location input, outcome' = Checked.fail kind location input)
    (passed : ∀ issues, outcome = .error issues → outcome' = .error issues) :
    Exact outcome' fun content => given content ∧ accepted content := by
  cases found : outcome with
  | ok content =>
    -- What was found is all that is given, so accepting it is accepting everything given.
    have only : ∀ other, given other ↔ other = content := fun other => by
      rw [← exact.ok_iff, found, Except.ok.injEq, eq_comm]
    by_cases accept : accepted content
    · rw [kept content found accept]
      refine .ok fun other => ?_
      rw [only, and_iff_left_iff_imp]
      rintro rfl
      exact accept
    · obtain ⟨kind, location, input, issue⟩ := refused content found accept
      rw [issue]
      refine .fail fun other held => accept ?_
      rw [← (only other).mp held.1]
      exact held.2
  -- Where nothing is found nothing is given, and less still is accepted.
  | error issues =>
    have nothing : ∀ other, ¬given other := fun other held => by
      rw [← exact.ok_iff, found] at held
      cases held
    rw [passed issues found, ← found]
    exact exact.congr fun other => ⟨fun held => absurd held (nothing other), And.left⟩

end Checked

namespace Schema

open Checked (Exact)

/-- A reader finds, wherever it stands, exactly what the value it reads gives. -/
def ReadsExactly {α : Type} (read : List DocumentStep → Value → Checked α)
    (gives : Value → α → Prop) : Prop :=
  ∀ location value, Exact (read location value) (gives value)

/-- Bytes are read as the text whose UTF-8 they are. -/
theorem fromUTF8?_eq_some {octets : List UInt8} {content : String} :
    String.fromUTF8? ⟨octets.toArray⟩ = some content ↔ octets = content.toUTF8.data.toList := by
  unfold String.fromUTF8?
  constructor
  · intro read
    split at read
    · cases read
      rfl
    · cases read
  · rintro rfl
    exact dif_pos content.isValidUTF8

/-- Texts are read exactly where they are given. -/
theorem readText_exact : ReadsExactly readText GivesText := by
  intro location value
  -- A text gives itself, bytes give the text they encode, and nothing else gives any.
  cases value with
  | text content =>
    refine .ok fun text => ⟨fun given => ?_, ?_⟩
    · cases given
      rfl
    · rintro rfl
      exact .text text
  | bytes octets =>
    -- The bytes of a text decode to it, and no other bytes do.
    have decoded : ∀ text, GivesText (.bytes octets) text ↔
        String.fromUTF8? ⟨octets.toArray⟩ = some text := by
      intro text
      rw [fromUTF8?_eq_some]
      constructor
      · rintro ⟨⟩
        rfl
      · rintro rfl
        exact .bytes text
    refine Exact.congr ?_ fun text => (decoded text).symm
    simp only [readText]
    cases String.fromUTF8? ⟨octets.toArray⟩ with
    | some content => exact .ok fun text => by rw [Option.some.injEq, eq_comm]
    | none => exact .fail fun text found => nomatch found
  | _ => exact .fail fun text given => nomatch given

/-- Words are read exactly where they are given, if each is found by itself alone. -/
theorem readWord_exact {α : Type} {word : α → String} {ofWord? : String → Option α}
    (named : ∀ text known, ofWord? text = some known ↔ word known = text) :
    ReadsExactly (readWord ofWord?) (GivesWord word) := by
  intro location value
  -- A word has to be a text, and bytes are not taken for one here.
  cases value with
  | text content =>
    have found : ∀ known, GivesWord word (.text content) known ↔ ofWord? content = some known := by
      intro known
      rw [named]
      constructor
      · rintro ⟨⟩
        rfl
      · rintro rfl
        exact .text known
    refine Exact.congr ?_ fun known => (found known).symm
    simp only [readWord]
    cases ofWord? content with
    | some known => exact .ok fun other => by rw [Option.some.injEq, eq_comm]
    | none => exact .fail fun known found => nomatch found
  | _ => exact .fail fun known given => nomatch given

section Combinators

variable {α : Type} {read : List DocumentStep → Value → Checked α} {gives : Value → α → Prop}
  {members : Members} {key : String}

/-- A member that is there gives what its value gives. -/
theorem givesMember_iff {value : Value} (present : members.lookup key = some value)
    {content : α} : GivesMember gives members key content ↔ gives value content := by
  constructor
  · rintro ⟨present', given⟩
    -- Only one value is found under a key.
    rw [present, Option.some.injEq] at present'
    exact present' ▸ given
  · exact .found present

/-- A member that is not there gives nothing. -/
theorem not_givesMember (absent : members.lookup key = none) (content : α) :
    ¬GivesMember gives members key content := by
  -- A member that gives something is found under its key.
  rintro ⟨present, _⟩
  simp [absent] at present

/-- Elements are read one by one, wherever the count of them starts. -/
theorem readElements_exact (reader : ReadsExactly read gives) (location : List DocumentStep)
    (index : Nat) (elements : List Value) :
    Exact (readElements read location index elements) (List.Forall₂ gives elements) := by
  -- The index only tells issues where they are, so it changes from element to element.
  induction elements generalizing index with
  | nil => exact .ok fun contents => List.forall₂_nil_left_iff
  | cons element rest ih =>
    refine ((reader _ element).both (ih (index + 1))).map fun contents => ?_
    rw [List.forall₂_cons_left_iff]
    constructor
    · rintro ⟨content, contents, first, others, rfl⟩
      exact ⟨(content, contents), ⟨first, others⟩, rfl⟩
    · rintro ⟨pair, ⟨first, others⟩, rfl⟩
      exact ⟨pair.1, pair.2, first, others, rfl⟩

/-- Lists are read exactly where sequences give their elements. -/
theorem readList_exact (reader : ReadsExactly read gives) :
    ReadsExactly (readList read) (GivesList gives) := by
  intro location value
  unfold readList
  cases listed : value.items? with
  | some elements =>
    -- A value has no more than one list of elements, whichever kind of sequence it is.
    refine (readElements_exact reader location 0 elements).congr fun contents => ?_
    constructor
    · exact .elements listed
    · rintro ⟨listed', each⟩
      rw [listed, Option.some.injEq] at listed'
      exact listed' ▸ each
  | none =>
    refine .fail fun contents given => ?_
    cases given with
    | elements listed' => simp [listed] at listed'

/-- Lists that must not be empty are read exactly where sequences give some elements. -/
theorem readFilledList_exact (reader : ReadsExactly read gives) :
    ReadsExactly (readFilledList read)
      fun value contents => GivesList gives value contents ∧ contents ≠ [] := by
  intro location value
  -- The list is read first, and only then looked at for being empty.
  refine (readList_exact reader location value).narrow _ (fun contents found filled => ?_)
    (fun contents found empty => ⟨.emptyList, location, ?_⟩) fun issues found => ?_
  · cases contents with
    | nil => exact absurd rfl filled
    | cons first rest => simp [readFilledList, found]
  · simp [readFilledList, found, not_not.mp empty]
  · simp [readFilledList, found]

/-- A member that has to be there is read exactly where it is given. -/
theorem required_exact (reader : ReadsExactly read gives) (members : Members) (key : String)
    (location : List DocumentStep) :
    Exact (required members key read location) (GivesMember gives members key) := by
  -- The reader is asked at the value that stands under the key, if there is one.
  unfold required
  cases present : members.lookup key with
  | some value => exact (reader _ value).congr fun content => (givesMember_iff present).symm
  | none => exact .fail (not_givesMember present)

/-- A member that may be left out is read as nothing exactly where it is absent or null. -/
theorem optional_exact (reader : ReadsExactly read gives) (members : Members) (key : String)
    (location : List DocumentStep) :
    Exact (optional members key read location) (MayGiveMember gives members key) := by
  -- Absent, null and present are told apart, and each rules the other two out.
  unfold optional
  split
  case h_1 absent =>
    refine .ok fun content => ⟨fun given => ?_, ?_⟩
    · cases given with
      | found present => simp [absent] at present
      | _ => rfl
    · rintro rfl
      exact .absent absent
  case h_2 null =>
    refine .ok fun content => ⟨fun given => ?_, ?_⟩
    · cases given with
      | found present known => simp_all
      | _ => rfl
    · rintro rfl
      exact .null null
  case h_3 value known present =>
    refine (reader _ value).map fun content => ⟨fun given => ?_, ?_⟩
    · cases given with
      | absent absent => simp [present] at absent
      | null null => simp_all
      | found present' _ given =>
        rw [present, Option.some.injEq] at present'
        exact ⟨_, present' ▸ given, rfl⟩
    · rintro ⟨content, given, rfl⟩
      exact .found present known given

end Combinators

/-- Paths are read exactly where texts are given that may be declared. -/
theorem readPath_exact :
    ReadsExactly readPath fun value path => GivesText value path ∧ isDeclaredPath path = true := by
  intro location value
  -- The text is read first, and only then looked at as a path.
  refine (readText_exact location value).narrow _ (fun path found declarable => ?_)
    (fun path found undeclarable => ?_) fun issues found => ?_
  · simp [readPath, found, declarable]
  · exact ⟨.rule ("Invalid field path: '" ++ path ++ "'"), location, by
      simp [readPath, found, undeclarable]⟩
  · simp [readPath, found]

/-- Fields are read exactly where they are declared. -/
theorem readField_exact : ReadsExactly readField DeclaresField := by
  intro location value
  cases value with
  | object members =>
    -- The three members are checked side by side, so the issues of all of them are reported.
    refine ((required_exact readPath_exact members "path" location).both
      ((required_exact (readWord_exact FieldKind.ofWord?_eq_some) members "kind" location).both
        (optional_exact readText_exact members "description" location))).map fun entry => ?_
    constructor
    · rintro ⟨⟨path, given⟩, declarable, kind, description⟩
      exact ⟨(entry.path, entry.kind, entry.description),
        ⟨.found path ⟨given, declarable⟩, kind, description⟩, rfl⟩
    · rintro ⟨parts, ⟨⟨path, given, declarable⟩, kind, description⟩, rfl⟩
      exact .object (.found path given) declarable kind description
  | _ => exact .fail fun entry declared => nomatch declared

/-- A group breaks none of the rules about whole groups exactly if it has one of the two shapes. -/
theorem groupFault?_eq_none {entry : GroupEntry} : groupFault? entry = none ↔ entry.IsShaped := by
  unfold groupFault?
  -- The rules are asked in order, and each that is passed says one thing about the shape.
  constructor
  · intro faultless
    split at faultless
    case h_1 leaf =>
      split_ifs at faultless with misnamed kindless
      obtain ⟨kind, known⟩ := Option.ne_none_iff_exists'.mp (by simpa using kindless)
      exact .leaf leaf (by simpa using misnamed) known
    case h_2 fields composite =>
      split_ifs at faultless with empty kinded
      exact .composite composite (by simpa using empty) (by simpa using kinded)
  · rintro (⟨leaf, named, known⟩ | ⟨composite, filled, kindless⟩)
    · simp [leaf, named, known]
    · simp [composite, filled, kindless]

/-- The members of a group are read exactly where each of them is given. -/
theorem readGroupMembers_exact (location : List DocumentStep) (members : Members) :
    Exact (readGroupMembers location members) fun entry =>
      GivesMember GivesText members "name" entry.name ∧
        GivesMember (GivesList (GivesWord Category.word)) members "categories" entry.categories ∧
        entry.categories ≠ [] ∧
        MayGiveMember (GivesWord FieldKind.word) members "kind" entry.kind ∧
        MayGiveMember GivesText members "description" entry.description ∧
        MayGiveMember (GivesList DeclaresField) members "fields" entry.fields := by
  have categories := readFilledList_exact (readWord_exact Category.ofWord?_eq_some)
  have kind := readWord_exact FieldKind.ofWord?_eq_some
  -- The five members are checked side by side, in the order in which they are declared.
  refine ((required_exact readText_exact members "name" location).both
    ((required_exact categories members "categories" location).both
      ((optional_exact kind members "kind" location).both
        ((optional_exact readText_exact members "description" location).both
          (optional_exact (readList_exact readField_exact) members "fields" location))))).map
    fun entry => ?_
  constructor
  · rintro ⟨name, ⟨listed, categories⟩, filled, kind, description, fields⟩
    exact ⟨(entry.name, entry.categories, entry.kind, entry.description, entry.fields),
      ⟨name, .found listed ⟨categories, filled⟩, kind, description, fields⟩, rfl⟩
  · rintro ⟨parts, ⟨name, ⟨listed, categories, filled⟩, kind, description, fields⟩, rfl⟩
    exact ⟨name, .found listed categories, filled, kind, description, fields⟩

/-- Groups are read exactly where they are declared. -/
theorem readGroup_exact : ReadsExactly readGroup DeclaresGroup := by
  intro location value
  cases value with
  | object members =>
    -- The rules about whole groups are asked only once all members could be read.
    have narrowed : Exact (readGroup location (.object members)) _ :=
      (readGroupMembers_exact location members).narrow GroupEntry.IsShaped
        (fun entry found shaped => by simp [readGroup, found, groupFault?_eq_none.mpr shaped])
        (fun entry found misshapen => by
          obtain ⟨sentence, fault⟩ :=
            Option.ne_none_iff_exists'.mp (mt groupFault?_eq_none.mp misshapen)
          exact ⟨.rule sentence, location, by simp [readGroup, found, fault]⟩)
        fun issues found => by simp [readGroup, found]
    refine narrowed.congr fun entry => ⟨?_, ?_⟩
    · rintro ⟨⟨name, categories, filled, kind, description, fields⟩, shaped⟩
      exact .object name categories filled kind description fields shaped
    · rintro ⟨name, categories, filled, kind, description, fields, shaped⟩
      exact ⟨⟨name, categories, filled, kind, description, fields⟩, shaped⟩
  | _ => exact .fail fun entry declared => nomatch declared

/-- No path is declared again exactly if the paths, owned ones included, are all different. -/
theorem duplicatesFrom_eq_nil {owners declared : List (String × String)}
    (distinct : (owners.map Prod.fst).Nodup) :
    duplicatesFrom owners declared = [] ↔ ((owners ++ declared).map Prod.fst).Nodup := by
  -- Each path that is new joins the owned ones, so these are generalised and stay different.
  induction declared generalizing owners with
  | nil => simpa [duplicatesFrom] using distinct
  | cons declaration rest ih =>
    obtain ⟨path, name⟩ := declaration
    simp only [duplicatesFrom]
    rw [List.map_append, List.map_cons, List.nodup_middle, ← List.map_append]
    cases owned : owners.lookup path with
    | some owner =>
      -- The path stands among the owned ones, so it occurs twice.
      obtain ⟨before, after, rfl, _⟩ := List.lookup_eq_some_iff.mp owned
      simp
    | none =>
      have unlisted : path ∉ owners.map Prod.fst := by
        rw [List.lookup_eq_none_iff] at owned
        intro listed
        obtain ⟨owner, member, rfl⟩ := List.mem_map.mp listed
        simpa using owned owner member
      have longer : ((owners ++ [(path, name)]).map Prod.fst).Nodup := by
        rw [List.map_append, List.map_singleton, List.nodup_middle, List.append_nil]
        exact List.nodup_cons.mpr ⟨unlisted, distinct⟩
      simp only [ih longer, List.append_assoc, List.singleton_append, List.map_append,
        List.map_cons, List.nodup_middle]

/-- The owned paths of some groups are the paths that they declare. -/
theorem map_fst_pathOwners (groups : List GroupEntry) :
    (pathOwners groups).map Prod.fst = groups.flatMap declaredPaths := by
  simp [pathOwners, List.map_flatMap, Function.comp_def]

/-- The version of a document is read exactly where it is declared. -/
theorem readVersion_exact (members : Members) :
    Exact
      (match members.lookup "schema_version" with
        | some value => readText [.key "schema_version"] value
        | none => .ok schemaVersion)
      (DeclaresVersion members) := by
  -- A version that is there has to be a text, and null is none.
  cases present : members.lookup "schema_version" with
  | some value =>
    refine (readText_exact _ value).congr fun version => ⟨fun given => ?_, fun declared => ?_⟩
    · exact .given (.found present given)
    · cases declared with
      | current absent => simp [present] at absent
      | given member => exact (givesMember_iff present).mp member
  | none =>
    -- Without a version of its own the document declares the current one and no other.
    refine .ok fun version => ⟨fun declared => ?_, ?_⟩
    · cases declared with
      | current => rfl
      | given member => exact absurd member (not_givesMember present version)
    · rintro rfl
      exact .current present

/-- The members of a catalog document are read exactly where each of them is given. -/
theorem readCatalogMembers_exact (members : Members) :
    Exact (readCatalogMembers members) fun entry =>
      DeclaresVersion members entry.schemaVersion ∧
        GivesMember (GivesList DeclaresGroup) members "groups" entry.groups ∧
        entry.groups ≠ [] := by
  -- The version and the groups are checked side by side.
  refine ((readVersion_exact members).both
    (required_exact (readFilledList_exact readGroup_exact) members "groups" [])).map
    fun entry => ?_
  constructor
  · rintro ⟨declared, ⟨listed, groups⟩, filled⟩
    exact ⟨(entry.schemaVersion, entry.groups), ⟨declared, .found listed ⟨groups, filled⟩⟩, rfl⟩
  · rintro ⟨parts, ⟨declared, listed, groups, filled⟩, rfl⟩
    exact ⟨declared, .found listed groups, filled⟩

/-- A list of groups declares what an object does that holds nothing but the list. -/
theorem declaresCatalog_list {documents : List Value} {entry : CatalogEntry} :
    DeclaresCatalog (.object [("groups", .list documents)]) entry ↔
      DeclaresCatalog (.list documents) entry := by
  have unversioned : List.lookup "schema_version" [("groups", Value.list documents)] = none := rfl
  have present : List.lookup "groups" [("groups", Value.list documents)] =
      some (.list documents) := rfl
  obtain ⟨version, groups⟩ := entry
  -- The object made around the list has the list as its groups, and no version.
  constructor
  · intro declared
    cases declared with
    | object declaredVersion member filled distinct =>
      obtain ⟨listed, each⟩ := (givesMember_iff present).mp member
      cases listed
      cases declaredVersion with
      | given given => exact absurd given (not_givesMember unversioned version)
      | current => exact .list each filled distinct
  · intro declared
    cases declared with
    | list each filled distinct =>
      exact .object (.current unversioned) (.found present (.elements rfl each)) filled distinct

/-- A catalog is read exactly where one is declared. -/
theorem readCatalog_exact (value : Value) : Exact (readCatalog value) (DeclaresCatalog value) := by
  have object : ∀ members, Exact (readCatalog (.object members)) (DeclaresCatalog (.object members))
    | members => by
      -- Repeated paths are looked for only once all groups could be read.
      have narrowed : Exact (readCatalog (.object members)) _ :=
        (readCatalogMembers_exact members).narrow
          (fun entry => (entry.groups.flatMap declaredPaths).Nodup)
          (fun entry found distinct => by
            simp [readCatalog, found, duplicatesFrom_eq_nil, map_fst_pathOwners, distinct])
          (fun entry found repeated => ⟨.rule _, [], .object members, by
            simp [readCatalog, found, duplicatesFrom_eq_nil, map_fst_pathOwners, repeated]
            rfl⟩)
          fun issues found => by simp [readCatalog, found]
      refine narrowed.congr fun entry => ⟨?_, ?_⟩
      · rintro ⟨⟨version, groups, filled⟩, distinct⟩
        exact .object version groups filled distinct
      · intro declared
        cases declared with
        | object version groups filled distinct => exact ⟨⟨version, groups, filled⟩, distinct⟩
  cases value with
  | list documents =>
    -- A bare list is read as the object that holds it.
    exact (object [("groups", .list documents)]).congr fun entry => declaresCatalog_list
  | object members => exact object members
  | _ => exact .fail fun entry declared => nomatch declared

end Schema

end DeliveryRules
