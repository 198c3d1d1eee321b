import DeliveryRules.Catalog.Schema
import Mathlib.Data.List.Forall2

/-! What catalog documents declare, told by their members and elements without reading them. -/

namespace DeliveryRules

/-- A value gives a text as that text, or as the bytes of its UTF-8. -/
inductive GivesText : Value → String → Prop
  | text (content : String) : GivesText (.text content) content
  | bytes (content : String) : GivesText (.bytes content.toUTF8.data.toList) content

/-- A value gives one of the things that words name only by the word itself. -/
inductive GivesWord {α : Type} (word : α → String) : Value → α → Prop
  | text (known : α) : GivesWord word (.text (word known)) known

/-- A sequence gives what its elements give, one after the other. -/
inductive GivesList {α : Type} (gives : Value → α → Prop) : Value → List α → Prop
  | elements {value : Value} {elements : List Value} {contents : List α} :
    value.items? = some elements → List.Forall₂ gives elements contents →
      GivesList gives value contents

/-- An object gives a content under a key. -/
inductive GivesMember {α : Type} (gives : Value → α → Prop) (members : Members) (key : String) :
    α → Prop
  | found {value : Value} {content : α} : members.lookup key = some value → gives value content →
      GivesMember gives members key content

/-- An object may give a content under a key, or give nothing by leaving the key out or null. -/
inductive MayGiveMember {α : Type} (gives : Value → α → Prop) (members : Members) (key : String) :
    Option α → Prop
  | absent : members.lookup key = none → MayGiveMember gives members key none
  | null : members.lookup key = some .null → MayGiveMember gives members key none
  | found {value : Value} {content : α} : members.lookup key = some value → value ≠ .null →
      gives value content → MayGiveMember gives members key (some content)

/-- An object declares a field by its path and its kind, perhaps with a description. -/
inductive DeclaresField : Value → FieldEntry → Prop
  | object {members : Members} {entry : FieldEntry} :
    GivesMember GivesText members "path" entry.path → isDeclaredPath entry.path = true →
      GivesMember (GivesWord FieldKind.word) members "kind" entry.kind →
      MayGiveMember GivesText members "description" entry.description →
      DeclaresField (.object members) entry

/-- A group is a leaf with a path for its name and a kind, or has fields and no kind. -/
inductive GroupEntry.IsShaped (entry : GroupEntry) : Prop
  | leaf {kind : FieldKind} : entry.fields = none → isDeclaredPath entry.name = true →
      entry.kind = some kind → IsShaped entry
  | composite {fields : List FieldEntry} : entry.fields = some fields → fields ≠ [] →
      entry.kind = none → IsShaped entry

/-- An object declares a group by its name and its categories, and then as a leaf or with fields. -/
inductive DeclaresGroup : Value → GroupEntry → Prop
  | object {members : Members} {entry : GroupEntry} :
    GivesMember GivesText members "name" entry.name →
      GivesMember (GivesList (GivesWord Category.word)) members "categories" entry.categories →
      entry.categories ≠ [] →
      MayGiveMember (GivesWord FieldKind.word) members "kind" entry.kind →
      MayGiveMember GivesText members "description" entry.description →
      MayGiveMember (GivesList DeclaresField) members "fields" entry.fields →
      entry.IsShaped → DeclaresGroup (.object members) entry

/-- A document declares its version as a text, or the current one by declaring none. -/
inductive DeclaresVersion (members : Members) : String → Prop
  | current : members.lookup "schema_version" = none → DeclaresVersion members schemaVersion
  | given {version : String} : GivesMember GivesText members "schema_version" version →
      DeclaresVersion members version

/--
A document declares a catalog as a list of groups, or as an object that holds such a list.

There is at least one group, and no path is declared twice.
-/
inductive DeclaresCatalog : Value → CatalogEntry → Prop
  | list {documents : List Value} {groups : List GroupEntry} :
    List.Forall₂ DeclaresGroup documents groups → groups ≠ [] →
      (groups.flatMap Schema.declaredPaths).Nodup →
      DeclaresCatalog (.list documents) ⟨schemaVersion, groups⟩
  | object {members : Members} {entry : CatalogEntry} :
    DeclaresVersion members entry.schemaVersion →
      GivesMember (GivesList DeclaresGroup) members "groups" entry.groups → entry.groups ≠ [] →
      (entry.groups.flatMap Schema.declaredPaths).Nodup →
      DeclaresCatalog (.object members) entry

end DeliveryRules
