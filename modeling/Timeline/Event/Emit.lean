import Timeline.Event.Basic
import Timeline.Record
import Timeline.Time.Normalize
/-!
# From records to events

An artifact declares which attributes its events carry and the record field
that each is read from. An event has exactly the declared attributes: a field
that the record lacks gives an unset attribute, texts, integers and truth values
are copied, and raw times are normalized. The first declared attribute whose
time does not normalize stops the event with an `EmitError`. Fields that no
attribute reads are ignored. `Emission.emitRecord` hands the event to a sink,
which a failed event leaves as it was.
-/

namespace Timeline

open Time

/-- An attribute of an event and the record field it is read from. -/
structure AttributeSpec where
  name : String
  field : String
  deriving DecidableEq, Repr

/-- An attribute read from the field of the same name. -/
def AttributeSpec.same (name : String) : AttributeSpec := ⟨name, name⟩

/-- The data type of an artifact's events and the attributes they carry. -/
structure Emission where
  dataType : String
  attributes : List AttributeSpec
  deriving DecidableEq, Repr

/-- An attribute whose time does not normalize. -/
structure EmitError where
  attributeName : String
  source : TimeError
  deriving DecidableEq, Repr

/-- ``attribute `a`: `` and the time error. -/
def EmitError.message (e : EmitError) : String :=
  "attribute `" ++ e.attributeName ++ "`: " ++ e.source.message

/-- The value of one attribute, read from the record. -/
def AttributeSpec.value (spec : AttributeSpec) (hints : TimeHints) (record : Record) :
    Except EmitError AttributeValue :=
  match record.get? spec.field with
  | none => .ok .unset
  | some (.str s) => .ok (.str s)
  | some (.int n) => .ok (.int n)
  | some (.bool b) => .ok (.bool b)
  | some (.time raw) =>
    match raw.normalize hints with
    | .ok t => .ok (.timestamp t)
    | .error e => .error ⟨spec.name, e⟩

/-- The event of a record. -/
def Emission.toEvent (schema : Emission) (artifact : String) (location : Location)
    (record : Record) (hints : TimeHints) : Except EmitError Event := do
  let attributes ← schema.attributes.foldlM (fun (m : NameMap AttributeValue) spec => do
    pure (m.insert spec.name (← spec.value hints record))) NameMap.empty
  pure { artifact, dataType := schema.dataType, location, attributes }

/-- Hands the event of a record to a sink. A time that does not normalize
leaves the sink as it was. -/
def Emission.emitRecord (schema : Emission) (artifact : String) (location : Location)
    (record : Record) (hints : TimeHints) (sink : Collected) : Except EmitError Unit × Collected :=
  match schema.toEvent artifact location record hints with
  | .ok e => (.ok (), sink.emit e)
  | .error err => (.error err, sink)

end Timeline
