import DeliveryRules.Catalog.Basic
import DeliveryRules.Catalog.DeclaredPath

/-!
Catalog documents checked entry by entry, with every fault found being reported at its place.

How single fields are read is what the schema library is documented to do: text may come as bytes
in UTF-8, a list may come as a tuple, members that no field is named after are passed over, and the
rules about a whole entry are only looked at when its fields have been read. Each issue names its
kind, its place and the value found there; how the library words the kinds is left out.
-/

namespace DeliveryRules

/-- What is wrong at a place of a catalog document. -/
inductive IssueKind
  | missing
  | notText
  | notUtf8
  | unknownWord
  | notList
  | notObject
  | emptyList
  -- A rule about a whole entry, told in a sentence.
  | rule (sentence : String)
deriving DecidableEq

namespace IssueKind

/-- The word for a kind of issue. -/
def word : IssueKind → String
  | .missing => "missing"
  | .notText => "string_type"
  | .notUtf8 => "string_unicode"
  | .unknownWord => "literal_error"
  | .notList => "list_type"
  | .notObject => "model_type"
  | .emptyList => "too_short"
  | .rule _ => "value_error"

end IssueKind

/-- A step into a catalog document: to a member by its key, or to an element by its index. -/
inductive DocumentStep
  | key (name : String)
  | index (n : Nat)
deriving DecidableEq

/-- An issue, the place in the document where it was found, and the value that has it. -/
structure Issue where
  kind : IssueKind
  location : List DocumentStep
  input : Value

namespace Issue

/-- A step of a place as a value. -/
def partValue : DocumentStep → Value
  | .key name => .text name
  | .index n => .int (Int.ofNat n)

/-- An issue as a value; only a rule about a whole entry has a sentence of its own. -/
def toValue (issue : Issue) : Value :=
  let sentence : Members :=
    match issue.kind with
    | .rule sentence => [("msg", .text ("Value error, " ++ sentence))]
    | _ => []
  .object ([("type", .text issue.kind.word), ("loc", .list (issue.location.map partValue))] ++
    sentence ++ [("input", issue.input)])

/-- Whether an issue holds data only: a broken rule is held together with the error it raised. -/
def isData (issue : Issue) : Bool :=
  match issue.kind with
  | .rule _ => false
  | _ => true

end Issue

/-- The outcome of checking: what was read, or every issue found. -/
abbrev Checked (α : Type) := Except (List Issue) α

namespace Checked

/-- A single issue at a place. -/
def fail {α : Type} (kind : IssueKind) (location : List DocumentStep) (input : Value) :
    Checked α :=
  .error [⟨kind, location, input⟩]

/-- Two checks made side by side, the issues of both being kept in order. -/
def both {α β : Type} (first : Checked α) (second : Checked β) : Checked (α × β) :=
  match first, second with
  | .ok a, .ok b => .ok (a, b)
  | .ok _, .error issues => .error issues
  | .error issues, .ok _ => .error issues
  | .error issues, .error more => .error (issues ++ more)

end Checked

/-- One field as a catalog document declares it. -/
structure FieldEntry where
  path : String
  kind : FieldKind
  description : Option String
deriving DecidableEq

/-- One group as a catalog document declares it. -/
structure GroupEntry where
  name : String
  categories : List Category
  kind : Option FieldKind
  description : Option String
  fields : Option (List FieldEntry)
deriving DecidableEq

/-- A whole catalog document. -/
structure CatalogEntry where
  schemaVersion : String
  groups : List GroupEntry
deriving DecidableEq

namespace Schema

/-- A text, bytes being read as text in UTF-8. -/
def readText (location : List DocumentStep) (value : Value) : Checked String :=
  match value with
  | .text content => .ok content
  | .bytes octets =>
    match String.fromUTF8? ⟨octets.toArray⟩ with
    | some content => .ok content
    | none => .fail .notUtf8 location value
  | _ => .fail .notText location value

/-- A word out of a closed set. -/
def readWord {α : Type} (ofWord? : String → Option α) (location : List DocumentStep)
    (value : Value) : Checked α :=
  match value with
  | .text word =>
    match ofWord? word with
    | some known => .ok known
    | none => .fail .unknownWord location value
  | _ => .fail .unknownWord location value

/-- Consecutive elements of a list, counted from the given index. -/
def readElements {α : Type} (read : List DocumentStep → Value → Checked α)
    (location : List DocumentStep) (index : Nat) (items : List Value) : Checked (List α) :=
  match items with
  | [] => .ok []
  | item :: rest =>
    (Checked.both (read (location ++ [.index index]) item)
      (readElements read location (index + 1) rest)).map fun pair => pair.1 :: pair.2

/-- A list of any length. -/
def readList {α : Type} (read : List DocumentStep → Value → Checked α)
    (location : List DocumentStep) (value : Value) : Checked (List α) :=
  match value.items? with
  | some items => readElements read location 0 items
  | none => .fail .notList location value

/-- A list with at least one element. -/
def readFilledList {α : Type} (read : List DocumentStep → Value → Checked α)
    (location : List DocumentStep) (value : Value) : Checked (List α) :=
  match readList read location value with
  | .ok [] => .fail .emptyList location value
  | outcome => outcome

/-- A member that has to be there. -/
def required {α : Type} (members : Members) (key : String)
    (read : List DocumentStep → Value → Checked α) (location : List DocumentStep) : Checked α :=
  match members.lookup key with
  | some value => read (location ++ [.key key]) value
  | none => .fail .missing (location ++ [.key key]) (.object members)

/-- A member that may be absent or null. -/
def optional {α : Type} (members : Members) (key : String)
    (read : List DocumentStep → Value → Checked α) (location : List DocumentStep) :
    Checked (Option α) :=
  match members.lookup key with
  | none | some .null => .ok none
  | some value => (read (location ++ [.key key]) value).map some

/-- A path that a catalog may declare. -/
def readPath (location : List DocumentStep) (value : Value) : Checked String :=
  match readText location value with
  | .ok path =>
    if isDeclaredPath path then .ok path
    else .fail (.rule ("Invalid field path: '" ++ path ++ "'")) location value
  | .error issues => .error issues

/-- The declaration of a field. -/
def readField (location : List DocumentStep) (value : Value) : Checked FieldEntry :=
  match value with
  | .object members =>
    (Checked.both (required members "path" readPath location)
      (Checked.both (required members "kind" (readWord FieldKind.ofWord?) location)
        (optional members "description" readText location))).map fun parts =>
      ⟨parts.1, parts.2.1, parts.2.2⟩
  | _ => .fail .notObject location value

/-- Which rule a group breaks: a leaf needs a kind, and a composite group fields instead. -/
def groupFault? (entry : GroupEntry) : Option String :=
  match entry.fields with
  | none =>
    if !isDeclaredPath entry.name then
      some ("Leaf group name is not a valid path: '" ++ entry.name ++ "'")
    else if entry.kind.isNone then some ("Leaf group '" ++ entry.name ++ "' requires 'kind'")
    else none
  | some fields =>
    if fields.isEmpty then
      some ("Composite group '" ++ entry.name ++ "' has an empty 'fields' list")
    else if entry.kind.isSome then
      some ("Composite group '" ++ entry.name ++ "' cannot declare 'kind'")
    else none

/-- The members of a group, before the rules about whole groups are applied. -/
def readGroupMembers (location : List DocumentStep) (members : Members) : Checked GroupEntry :=
  let categories := readFilledList (readWord Category.ofWord?)
  (Checked.both (required members "name" readText location)
    (Checked.both (required members "categories" categories location)
      (Checked.both (optional members "kind" (readWord FieldKind.ofWord?) location)
        (Checked.both (optional members "description" readText location)
          (optional members "fields" (readList readField) location))))).map fun parts =>
    ⟨parts.1, parts.2.1, parts.2.2.1, parts.2.2.2.1, parts.2.2.2.2⟩

/-- The declaration of a group. -/
def readGroup (location : List DocumentStep) (value : Value) : Checked GroupEntry :=
  match value with
  | .object members =>
    match readGroupMembers location members with
    | .ok entry =>
      match groupFault? entry with
      | some sentence => .fail (.rule sentence) location value
      | none => .ok entry
    | .error issues => .error issues
  | _ => .fail .notObject location value

/-- The paths a group declares. -/
def declaredPaths (entry : GroupEntry) : List String :=
  match entry.fields with
  | none => [entry.name]
  | some fields => fields.map (·.path)

/-- Paths with the name of the group that declares each, in document order. -/
def pathOwners (groups : List GroupEntry) : List (String × String) :=
  groups.flatMap fun entry => (declaredPaths entry).map fun path => (path, entry.name)

/-- The later declarations of paths that an earlier group already owns. -/
def duplicatesFrom (owners : List (String × String)) : List (String × String) → List String
  | [] => []
  | (path, name) :: rest =>
    match owners.lookup path with
    | some owner =>
      ("'" ++ path ++ "' in groups '" ++ owner ++ "' and '" ++ name ++ "'") ::
        duplicatesFrom owners rest
    | none => duplicatesFrom (owners ++ [(path, name)]) rest

/-- The members of a catalog document, the version having a default. -/
def readCatalogMembers (members : Members) : Checked CatalogEntry :=
  let version :=
    match members.lookup "schema_version" with
    | some value => readText [.key "schema_version"] value
    | none => .ok schemaVersion
  (Checked.both version (required members "groups" (readFilledList readGroup) [])).map fun parts =>
    ⟨parts.1, parts.2⟩

/-- A catalog document: an object with groups, or simply the list of them. -/
def readCatalog (value : Value) : Checked CatalogEntry :=
  let read (members : Members) : Checked CatalogEntry :=
    match readCatalogMembers members with
    | .ok entry =>
      let duplicates := duplicatesFrom [] (pathOwners entry.groups)
      if duplicates.isEmpty then .ok entry
      else
        .fail (.rule ("Duplicate field paths: " ++ "; ".intercalate duplicates)) []
          (.object members)
    | .error issues => .error issues
  match value with
  | .list groups => read [("groups", .list groups)]
  | .object members => read members
  | _ => .fail .notObject [] value

/-- A text or null. -/
def textOrNull : Option String → Value
  | some content => .text content
  | none => .null

/-- A kind of field or null. -/
def kindOrNull (kind : Option FieldKind) : Value := textOrNull (kind.map FieldKind.word)

/-- A field entry with every member filled in. -/
def fieldValue (entry : FieldEntry) : Value :=
  .object [("path", .text entry.path), ("kind", .text entry.kind.word),
    ("description", textOrNull entry.description)]

/-- A group entry with every member filled in. -/
def groupValue (entry : GroupEntry) : Value :=
  let fields :=
    match entry.fields with
    | some fields => .list (fields.map fieldValue)
    | none => .null
  .object [("name", .text entry.name),
    ("categories", .list (entry.categories.map fun category => .text category.word)),
    ("kind", kindOrNull entry.kind), ("description", textOrNull entry.description),
    ("fields", fields)]

/-- A catalog entry with every member filled in. -/
def catalogValue (entry : CatalogEntry) : Value :=
  .object [("schema_version", .text entry.schemaVersion),
    ("groups", .list (entry.groups.map groupValue))]

end Schema

end DeliveryRules
