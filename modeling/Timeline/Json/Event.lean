import Timeline.Event.Basic
import Timeline.Json.Time
/-!
# Events as JSON

The JSON forms of events, warnings and counts, members in the order shown:

* an attribute is `null` when unset, else its text, integer, truth value or
  timestamp object;
* a location is `{"kind":"line","number":n}` or `{"kind":"row","query":q,"row":r}`;
* an event is its artifact, data type, location and attributes (by name);
* a warning is its artifact, location, unit and message;
* counts are units, events and warnings.
-/

namespace Timeline

/-- The JSON value of an attribute. -/
def AttributeValue.toJson : AttributeValue → Json
  | .unset => .null
  | .str s => .str s
  | .int n => .int n
  | .bool b => .bool b
  | .timestamp t => t.toJson

/-- The JSON object of a location. -/
def Location.toJson : Location → Json
  | .line n => .obj [("kind", .str "line"), ("number", .int n)]
  | .row q r => .obj [("kind", .str "row"), ("query", .int q), ("row", .int r)]

/-- The members of an event. -/
def Event.members (e : Event) : List (String × Json) :=
  [("artifact", .str e.artifact), ("data_type", .str e.dataType), ("location", e.location.toJson),
    ("attributes", .obj (e.attributes.entries.map fun (k, v) => (k, v.toJson)))]

/-- The JSON object of an event. -/
def Event.toJson (e : Event) : Json :=
  .obj e.members

/-- The JSON object of a warning. -/
def Warning.toJson (w : Warning) : Json :=
  .obj [("artifact", .str w.artifact), ("location", w.location.toJson), ("unit", .str w.unit),
    ("message", .str w.message)]

/-- The JSON object of the counts of a scan. -/
def Stats.toJson (s : Stats) : Json :=
  .obj [("units", .int s.units), ("events", .int s.events), ("warnings", .int s.warnings)]

end Timeline
