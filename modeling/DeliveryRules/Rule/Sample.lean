import DeliveryRules.Catalog.Category

/-! Sample orders on which a rule is tried out, three for each category. -/

namespace DeliveryRules

namespace Sample

/-- The part of a sample about its order. -/
def order (id : String) (value subtotal tip items : Int) (catering scheduled : Bool)
    (channel : String) : Value :=
  .object [("id", .text id), ("order_value", .int value), ("subtotal", .int subtotal),
    ("tip", .int tip), ("item_count", .int items), ("is_catering", .bool catering),
    ("is_scheduled", .bool scheduled), ("channel", .text channel)]

/-- The part of a sample about its store. -/
def store (id name city zip : String) : Value :=
  .object [("id", .text id), ("name", .text name), ("city", .text city), ("state", .text "TX"),
    ("zip", .text zip)]

/-- The part of a sample about its delivery, the distance being given in tenths of a mile. -/
def delivery (tenths : Nat) (city zip : String) (idCheck : Bool) : Value :=
  .object [("distance_miles", .float (.ofRatio false tenths 10)), ("dropoff_city", .text city),
    ("dropoff_zip", .text zip), ("requires_id_check", .bool idCheck)]

/-- The part of a sample about when it was placed. -/
def time (hour : Int) (day : String) (weekend : Bool) : Value :=
  .object [("hour", .int hour), ("day_of_week", .text day), ("is_weekend", .bool weekend)]

/-- The offer of a provider to deliver a sample. -/
def quote (provider : String) (fee minutes : Int) : Value :=
  .object [("provider", .text provider), ("fee", .int fee), ("eta_minutes", .int minutes)]

/-- The sample orders, from a small one to a large one. -/
def orders : List Members :=
  [[("order", order "SIM-1001" 4500 3900 600 2 false false "app"),
    ("store", store "store-017" "Downtown" "Austin" "78701"),
    ("delivery", delivery 18 "Austin" "78702" false),
    ("time", time 12 "tuesday" false),
    ("preferred_provider", .text "uber")],
   [("order", order "SIM-1002" 15000 13200 1800 6 false false "web"),
    ("store", store "store-017" "Downtown" "Austin" "78701"),
    ("delivery", delivery 45 "Austin" "78704" false),
    ("time", time 18 "friday" false),
    ("preferred_provider", .text "doordash")],
   [("order", order "SIM-1003" 32000 28500 3500 24 true true "phone"),
    ("store", store "store-042" "Round Rock" "Round Rock" "78664"),
    ("delivery", delivery 92 "Pflugerville" "78660" true),
    ("time", time 11 "saturday" true),
    ("preferred_provider", .text "doordash")]]

/-- The quotes for each of the sample orders. -/
def quotes : List (List Value) :=
  [[quote "uber" 599 28, quote "doordash" 699 24],
   [quote "doordash" 899 35, quote "uber" 949 31],
   [quote "doordash" 1499 52, quote "uber" 1299 47]]

/-- A sample order with its quotes and their number. -/
def withQuotes (members : Members) (offers : List Value) : Members :=
  members ++ [("provider_quotes", .list offers), ("quote_count", .int offers.length)]

/-- The sample documents of a category. -/
def documents : Category → List Value
  | .providerSelection => orders.map .object
  | .quoteEvaluation => (orders.zipWith withQuotes quotes).map .object

end Sample

/-- Why an edit of sample documents is refused. -/
inductive EditError
  | noSuchDocument
  | noSuchPart
  | notEditable
deriving DecidableEq

namespace Sample

/-- The number that a value is as an index into a sequence; truth values count as 0 and 1. -/
def index? : Value → Option Int
  | .int n => some n
  | .bool truth => some (if truth then 1 else 0)
  | _ => none

/-- An index into a sequence, counted from the end when it is negative. -/
def position? (length : Nat) (index : Int) : Option Nat :=
  let place := if index < 0 then index + Int.ofNat length else index
  if 0 ≤ place && place < Int.ofNat length then some place.toNat else none

/-- The place that a value stands for in a sequence. -/
def placeOf (length : Nat) (index : Value) : Except EditError Nat :=
  match index? index with
  | none => .error .notEditable
  | some n =>
    match position? length n with
    | some place => .ok place
    | none => .error .noSuchDocument

/-- Whether a value can be a key at all, be it one that no text finds. -/
def isKey : Value → Bool
  | .list _ | .object _ => false
  | _ => true

/-- A part of a document with one of its members, or one of its elements, replaced. -/
def editPart (key value : Value) : Value → Except EditError Value
  | .object members =>
    match key with
    | .text name => .ok (.object (Members.put members name value))
    -- What stands under another key is out of sight, as members are found by text.
    | _ => if isKey key then .ok (.object members) else .error .notEditable
  | .list items => do
    let place ← placeOf items.length key
    return .list (items.set place value)
  | _ => .error .notEditable

/-- Documents with one member of one part of one of them replaced. -/
def edit (documents : List Value) (index part key value : Value) :
    Except EditError (List Value) := do
  let place ← placeOf documents.length index
  match documents[place]?, part with
  | some (.object members), .text name =>
    match members.lookup name with
    | none => .error .noSuchPart
    | some old =>
      let edited ← editPart key value old
      return documents.set place (.object (Members.put members name edited))
  | some (.object _), part => .error (if isKey part then .noSuchPart else .notEditable)
  | _, _ => .error .notEditable

end Sample

end DeliveryRules
