import DeliveryRules.Catalog.Files
import DeliveryRules.Catalog.Schema
import DeliveryRules.Json.Token

/-! Why a catalog is not available. -/

namespace DeliveryRules

/-- Why a catalog is not available. -/
inductive CatalogError
  | empty (source : Option String)
  | unreadable (name : String) (reason : FileError)
  -- A file, or a text in some format, that is not written in the notation it should be in.
  | malformedFile (name : String)
  | malformedText (format : String)
  -- A text that is not read for a reason that has nothing to do with its notation.
  | unreadText (reason : TextError)
  | versionMismatch (found : Value)
  | invalid (issues : List Issue) (source : Option String)
  -- A version that cannot be compared, since it holds a number that is too long.
  | unwritableVersion (reason : NumeralError)

namespace CatalogError

/-- Whether an error is told; one that loading a catalog does not expect is not. -/
def isTellable : CatalogError → Bool
  | .unreadable _ reason => reason.isForeseen
  | .unreadText _ | .unwritableVersion _ => false
  | _ => true

/-- Whether the further facts of an error are data only. -/
def isData : CatalogError → Bool
  | .invalid issues _ => issues.all Issue.isData
  | _ => true

/-- What is said of a text that is not in its notation. -/
def malformedReason : String := "the text does not follow its notation"

/-- An error as a sentence. -/
def message : CatalogError → String
  | .empty _ => "Field catalog is empty"
  | .unreadable _ reason => "Failed to load field catalog: " ++ reason.text
  | .malformedFile _ => "Failed to load field catalog: " ++ malformedReason
  | .malformedText _ => "Failed to parse field catalog: " ++ malformedReason
  | .unreadText _ => "Field catalog cannot be read"
  | .versionMismatch found =>
    "Schema version mismatch: catalog has " ++ found.spoken ++ ", expected " ++ schemaVersion
  | .invalid issues _ =>
    "Field catalog validation failed: " ++ numeral issues.length ++ " errors"
  | .unwritableVersion _ => "Field catalog version cannot be compared"

/-- The further facts that a report of an error carries. -/
def details : CatalogError → Members
  | .empty source => [("path", Schema.textOrNull source)]
  | .unreadable name reason => [("path", .text name), ("error", .text reason.text)]
  | .malformedFile name => [("path", .text name), ("error", .text malformedReason)]
  | .malformedText format => [("format", .text format)]
  | .versionMismatch found =>
    [("catalog_version", found), ("expected_version", .text schemaVersion)]
  | .invalid issues source =>
    [("errors", .list (issues.map Issue.toValue)), ("path", Schema.textOrNull source)]
  | .unreadText _ | .unwritableVersion _ => []

end CatalogError

end DeliveryRules
