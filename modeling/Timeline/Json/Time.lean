import Timeline.Time.Timestamp
import Timeline.Json.Basic
/-!
# Timestamps as JSON

A timestamp is written as an object with its unit, its count, its wall-clock
flag and its ISO 8601 text, in that order.
-/

namespace Timeline.Time

/-- The JSON object of a timestamp. -/
def Timestamp.toJson (t : Timestamp) : Json :=
  .obj [("resolution", .str t.resolution.name), ("value", .int t.value),
    ("is_local_time", .bool t.isLocal), ("iso", .str t.iso)]

end Timeline.Time
