import Timeline.Time.Timestamp
import Timeline.Data.NameMap
/-!
# Events and warnings

An event is what a unit of evidence becomes: the artifact that read it, its data
type, where in the evidence it was found, and its attributes by name. An
attribute is a text, an integer, a truth value, a timestamp, or unset when the
unit did not have it.

A unit that cannot become an event becomes a warning instead: the artifact, the
location, the unit's text and the reason. A scan collects its events and
warnings in the order of the units and counts units, events and warnings.
-/

namespace Timeline

open Time

/-- The value of an attribute of an event. -/
inductive AttributeValue where
  | unset
  | str (s : String)
  | int (n : Int)
  | bool (b : Bool)
  | timestamp (t : Timestamp)

/-- Where a unit was found: at a line of a text, or at a row of a query's result. -/
inductive Location where
  | line (number : Nat)
  | row (query row : Nat)
  deriving DecidableEq, Repr

/-- `line N`, or `query Q row R`. -/
def Location.display : Location → String
  | .line n => s!"line {n}"
  | .row q r => s!"query {q} row {r}"

/-- A normalized event. -/
structure Event where
  artifact : String
  dataType : String
  location : Location
  attributes : NameMap AttributeValue

/-- A unit that did not become an event, and why. -/
structure Warning where
  artifact : String
  location : Location
  unit : String
  message : String
  deriving DecidableEq, Repr

/-- `artifact location: message`. -/
def Warning.display (w : Warning) : String :=
  w.artifact ++ " " ++ w.location.display ++ ": " ++ w.message

/-- The counts of a scan. -/
structure Stats where
  units : Nat := 0
  events : Nat := 0
  warnings : Nat := 0
  deriving DecidableEq, Repr

/-- What a scan hands on, in the order it was handed. -/
structure Collected where
  events : Array Event := #[]
  warnings : Array Warning := #[]

/-- Adds an event. -/
def Collected.emit (c : Collected) (e : Event) : Collected :=
  { c with events := c.events.push e }

/-- Adds a warning. -/
def Collected.warn (c : Collected) (w : Warning) : Collected :=
  { c with warnings := c.warnings.push w }

end Timeline
