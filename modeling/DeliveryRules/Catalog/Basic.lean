import DeliveryRules.Catalog.Category
import DeliveryRules.Condition.Error
import DeliveryRules.Json.Printer

/-! The catalog of fields that rules may refer to, in groups that each belong to some categories. -/

namespace DeliveryRules

/-- A field that rules can refer to. -/
structure Descriptor where
  path : String
  kind : FieldKind
  categories : List Category
  description : Option String
deriving DecidableEq

/-- A named group of fields; one without fields is a leaf, whose name is its only path. -/
structure Group where
  name : String
  categories : List Category
  fields : List Descriptor
  kind : Option FieldKind
  description : Option String
deriving DecidableEq

/-- Every group of fields, with the version of the form they were written in. -/
structure Catalog where
  groups : List Group
  schemaVersion : String
  source : Option String
deriving DecidableEq

/-- The version of the form that catalogs are written in. -/
def schemaVersion : String := "1.0.0"

/-- A description as a member of a document; an absent or empty one is left out. -/
def descriptionMember (description : Option String) : Members :=
  match description with
  | none | some "" => []
  | some text => [("description", .text text)]

namespace Descriptor

/-- A field as an entry of a catalog document. -/
def toValue (descriptor : Descriptor) : Value :=
  .object ([("path", .text descriptor.path), ("kind", .text descriptor.kind.word)] ++
    descriptionMember descriptor.description)

end Descriptor

namespace Group

/-- Whether a group stands for a single field of its own name. -/
def isLeaf (group : Group) : Bool := group.fields.isEmpty

/-- The paths a group exposes. -/
def paths (group : Group) : List String :=
  if group.isLeaf then [group.name] else group.fields.map (·.path)

/-- Whether rules of a category may refer to a group. -/
def appliesTo (group : Group) (category : Category) : Bool := group.categories.contains category

/-- The kind of a leaf, text being assumed when none is declared. -/
def leafKind (group : Group) : FieldKind := group.kind.getD .string

/-- The fields a group exposes, a leaf exposing one made of its own facts. -/
def descriptors (group : Group) : List Descriptor :=
  if group.isLeaf then [⟨group.name, group.leafKind, group.categories, group.description⟩]
  else group.fields

/-- A group as an entry of a catalog document. -/
def toValue (group : Group) : Value :=
  let shape :=
    if group.isLeaf then ("kind", .text group.leafKind.word)
    else ("fields", .list (group.fields.map Descriptor.toValue))
  .object
    ([("name", .text group.name),
      ("categories", .list (group.categories.map fun category => .text category.word))] ++
      descriptionMember group.description ++ [shape])

end Group

namespace Catalog

/-- The groups that rules of a category may refer to. -/
def groupsFor (catalog : Catalog) (category : Category) : List Group :=
  catalog.groups.filter (·.appliesTo category)

/-- The paths that rules of a category may refer to. -/
def pathsFor (catalog : Catalog) (category : Category) : List String :=
  (catalog.groupsFor category).flatMap Group.paths

/-- The fields that rules of a category may refer to, in catalog order. -/
def fieldsFor (catalog : Catalog) (category : Category) : List Descriptor :=
  (catalog.groupsFor category).flatMap Group.descriptors

/-- Every path of a catalog. -/
def allPaths (catalog : Catalog) : List String := catalog.groups.flatMap Group.paths

/-- The first group of a name. -/
def group? (catalog : Catalog) (name : String) : Option Group :=
  catalog.groups.find? (·.name == name)

/-- A catalog as a document: the list of its groups. -/
def toValue (catalog : Catalog) : Value := .list (catalog.groups.map Group.toValue)

/-- A catalog as indented text, every category included. -/
def serialize (catalog : Catalog) : String := Json.indented .ascii catalog.toValue

end Catalog

/-- Paths in the order of their code points, each listed once. -/
def sortedPaths (paths : List String) : List String := sortedTexts paths.eraseDups

end DeliveryRules
