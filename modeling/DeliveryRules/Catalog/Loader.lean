import DeliveryRules.Catalog.Error
import DeliveryRules.Json.Parser

/-! Catalogs made from documents, texts and files. -/

namespace DeliveryRules

/-- What is read that does not come from the library's own code or from its users. -/
structure Installation where
  -- The reader of YAML is a library of its own.
  readYaml : String → Except TextError Value
  -- The file that the library is installed with.
  packagedFile : Except FileError ByteArray

/-- A declared field as part of its group, which lends it its categories. -/
def FieldEntry.toDescriptor (entry : FieldEntry) (categories : List Category) : Descriptor :=
  ⟨entry.path, entry.kind, categories, entry.description⟩

/-- A declared group. -/
def GroupEntry.toGroup (entry : GroupEntry) : Group where
  name := entry.name
  categories := entry.categories
  fields := (entry.fields.getD []).map (·.toDescriptor entry.categories)
  kind := entry.kind
  description := entry.description

/-- A checked document as a catalog. -/
def CatalogEntry.toCatalog (entry : CatalogEntry) (source : Option String) : Catalog :=
  ⟨entry.groups.map GroupEntry.toGroup, entry.schemaVersion, source⟩

/-- The version a document declares, the current one when it declares none. -/
def declaredVersion (members : Members) : Value :=
  (members.lookup "schema_version").getD (.text schemaVersion)

/-- The part of a version before its first dot. -/
def majorVersion (version : String) : List Char := version.toList.takeWhile (· != '.')

/-- Whether a version belongs to the current major one, both being compared as texts. -/
def isCurrentVersion (version : Value) : Except NumeralError Bool :=
  NumeralError.guard version.isWritable
    (majorVersion version.spoken == majorVersion schemaVersion)

/-- The version of a document looked at by a strict reader. -/
def checkVersion (value : Value) : Except CatalogError Unit :=
  match value with
  | .object members =>
    let found := declaredVersion members
    match isCurrentVersion found with
    | .ok true => .ok ()
    | .ok false => .error (.versionMismatch found)
    | .error reason => .error (.unwritableVersion reason)
  -- A bare list of groups declares no version.
  | _ => .ok ()

namespace Catalog

/-- The catalog of a document; the version is only looked at by a strict reader. -/
def ofValue (strict : Bool) (source : Option String) (value : Value) :
    Except CatalogError Catalog :=
  match value with
  | .null => .error (.empty source)
  | value => do
    if strict then checkVersion value
    match Schema.readCatalog value with
    | .ok entry => .ok (entry.toCatalog source)
    | .error issues => .error (.invalid issues source)

/-- The catalog in what a reader made of a text, which may not have followed its notation. -/
def ofReading (reading : Except TextError Value) (malformed : CatalogError) (source : String) :
    Except CatalogError Catalog :=
  match reading with
  | .ok value => ofValue true (some source) value
  | .error .malformed => .error malformed
  | .error reason => .error (.unreadText reason)

/-- The catalog of a text; any format but JSON is taken for YAML. -/
def ofText (installation : Installation) (text format : String) : Except CatalogError Catalog :=
  let reading :=
    if lowerAscii format = "json" then Json.read text else installation.readYaml text
  ofReading reading (.malformedText format) "<string>"

/-- The catalog in a file, read as JSON or YAML by the file's name. -/
def ofFile (installation : Installation) (files : Files) (name : String) :
    Except CatalogError Catalog :=
  let clean := cleanName name
  match files.read name with
  | .error reason => .error (.unreadable clean reason)
  | .ok text =>
    let reading := if isJsonName name then Json.read text else installation.readYaml text
    ofReading reading (.malformedFile clean) clean

/-- The name under which the packaged catalog goes as a source. -/
def packagedSource : String := "<packaged>"

/-- The catalog in the file that the library is installed with, which is in YAML. -/
def ofPackagedFile (installation : Installation) : Except CatalogError Catalog :=
  match installation.packagedFile >>= decodeFile packagedSource with
  | .error reason => .error (.unreadable packagedSource reason)
  | .ok text =>
    ofReading (installation.readYaml text) (.malformedFile packagedSource) packagedSource

end Catalog

end DeliveryRules
