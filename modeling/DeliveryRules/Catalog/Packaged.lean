import DeliveryRules.Catalog.Loader
import DeliveryRules.Json.Flow

/-! The catalog that comes with the library: orders, their deliveries and the quotes for them. -/

namespace DeliveryRules

namespace Group

/-- A group of fields, which share its categories. -/
def composite (name : String) (categories : List Category) (description : String)
    (fields : List (String × FieldKind × String)) : Group where
  name := name
  categories := categories
  fields := fields.map fun field => ⟨field.1, field.2.1, categories, some field.2.2⟩
  kind := none
  description := some description

/-- A group that is a single field. -/
def leaf (name : String) (categories : List Category) (kind : FieldKind) (description : String) :
    Group :=
  ⟨name, categories, [], some kind, some description⟩

end Group

namespace Catalog

/-- The packaged catalog; money amounts are whole numbers of cents. -/
def packaged : Catalog where
  schemaVersion := DeliveryRules.schemaVersion
  source := some packagedSource
  groups := [
    .composite "order" Category.all "The order being dispatched" [
      ("order.id", .string, "Order identifier"),
      ("order.order_value", .number, "Order total in cents"),
      ("order.subtotal", .number, "Item subtotal in cents"),
      ("order.tip", .number, "Customer tip in cents"),
      ("order.item_count", .number, "Number of items in the order"),
      ("order.is_catering", .boolean, "Large catering order"),
      ("order.is_scheduled", .boolean, "Order scheduled for a later time"),
      ("order.channel", .string, "Ordering channel (web, app, phone, kiosk)")],
    .composite "store" Category.all "The store fulfilling the order" [
      ("store.id", .string, "Store identifier"),
      ("store.name", .string, "Store display name"),
      ("store.city", .string, "Store city"),
      ("store.state", .string, "Store state or province code"),
      ("store.zip", .string, "Store postal code")],
    .composite "delivery" Category.all "Where the order is going" [
      ("delivery.distance_miles", .number, "Driving distance from store to drop-off"),
      ("delivery.dropoff_city", .string, "Drop-off city"),
      ("delivery.dropoff_zip", .string, "Drop-off postal code"),
      ("delivery.requires_id_check", .boolean, "Courier must check ID at drop-off")],
    .composite "time" Category.all "When the order was placed, in store local time" [
      ("time.hour", .number, "Hour of day, 0-23"),
      ("time.day_of_week", .string, "Lowercase day name"),
      ("time.is_weekend", .boolean, "Saturday or Sunday")],
    .leaf "preferred_provider" Category.all .string "Provider configured as the store's default",
    .composite "provider_quotes" [.quoteEvaluation] "Delivery quotes returned by each provider" [
      ("provider_quotes[].provider", .string, "Provider name"),
      ("provider_quotes[].fee", .number, "Quoted delivery fee in cents"),
      ("provider_quotes[].eta_minutes", .number, "Quoted minutes until drop-off")],
    .leaf "quote_count" [.quoteEvaluation] .number "Number of quotes received"]

end Catalog

namespace Installation

/-- Whether the file that the library is installed with holds the packaged catalog. -/
def IsIntact (installation : Installation) : Prop :=
  Catalog.ofPackagedFile installation = .ok Catalog.packaged

/-- The bytes of a file with the packaged catalog, which is in YAML if it is in JSON. -/
def packagedBytes : ByteArray := Catalog.packaged.serialize.toUTF8

/-- An installation whose reader of YAML knows the packaged file, and else only the flow style. -/
def standard : Installation where
  readYaml text :=
    if decodeText packagedBytes = some text then .ok Catalog.packaged.toValue
    else Json.Flow.read text
  packagedFile := .ok packagedBytes

end Installation

end DeliveryRules
