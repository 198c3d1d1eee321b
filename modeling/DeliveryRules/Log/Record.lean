import DeliveryRules.Log.Message

/-! Log records: how severe an event is, what happened, and which request and error it concerns. -/

namespace DeliveryRules.Log

/-- The name of a level of severity. -/
def levelName (level : Int) : String :=
  if level = 0 then "NOTSET"
  else if level = 10 then "DEBUG"
  else if level = 20 then "INFO"
  else if level = 30 then "WARNING"
  else if level = 40 then "ERROR"
  else if level = 50 then "CRITICAL"
  else "Level " ++ signedNumeral level

/-- An event to be logged. -/
structure Record where
  logger : String
  level : Int
  pattern : String
  arguments : List Value
  extra : Members

namespace Record

/-- The time at which a record is written. -/
def timeKey : String := "timestamp"

/-- The further facts about an event that are logged. -/
def extraKeys : List String := ["request_id", "error_code"]

/-- The members of a log entry, apart from the time, which comes before them. -/
def entry (record : Record) : Except MessageError Members := do
  let text ← message record.pattern record.arguments
  let extra := extraKeys.filterMap fun key =>
    (record.extra.lookup key).map fun value => (key, value)
  return [("level", .text (levelName record.level)), ("logger", .text record.logger),
    ("message", .text text)] ++ extra

end Record

end DeliveryRules.Log
