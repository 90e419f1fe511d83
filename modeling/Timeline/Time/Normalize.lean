import Timeline.Time.Raw
import Timeline.Text.Quoted
/-!
# Normalizing raw times

`RawTime.normalize` turns a raw time into a canonical timestamp.

* POSIX seconds and Java milliseconds keep their unit and count; they are UTC.
* WebKit microseconds move back by the 11644473600 seconds from 1601 to 1970,
  Cocoa microseconds forward by the 978307200 seconds from 1970 to 2001; both
  become UTC microsecond timestamps. A moved count that leaves 64 bits is out
  of range.
* A negative count is refused unless the hints allow it. For WebKit times the
  raw count is tested, for Cocoa times the count after the shift.
* A calendar tuple is checked field by field, in a fixed order: the month name,
  the month, the day (leap years counted), hour, minute, second, the fraction,
  then the year range, then the offset. The first failing check gives the error.
  A tuple without an offset is a wall-clock reading; one with an offset is moved
  to UTC. A tuple with a fraction gives a microsecond timestamp (digits past the
  sixth are dropped), one without a second timestamp.
-/

namespace Timeline.Time

open Text

/-- Why a raw time has no canonical timestamp. -/
inductive TimeError where
  | negativeEpoch (value : Int)
  | unknownMonthName (name : String)
  | monthOutOfRange (month : Nat)
  | dayOutOfRange (year : Int) (month day : Nat)
  | hourOutOfRange (hour : Nat)
  | minuteOutOfRange (minute : Nat)
  | secondOutOfRange (second : Nat)
  | invalidFraction (value digits : Nat)
  | offsetOutOfRange (minutes : Int)
  | outOfRange
  deriving DecidableEq, Repr

/-- The message of a time error. -/
def TimeError.message : TimeError → String
  | .negativeEpoch v => s!"negative epoch value {decimal v} is not allowed"
  | .unknownMonthName name => "unknown month name: " ++ quote name
  | .monthOutOfRange m => s!"month out of range: {m}"
  | .dayOutOfRange y m d => s!"day {d} out of range for {signedPadded 4 y}-{padded 2 m}"
  | .hourOutOfRange h => s!"hour out of range: {h}"
  | .minuteOutOfRange m => s!"minute out of range: {m}"
  | .secondOutOfRange s => s!"second out of range: {s}"
  | .invalidFraction v d => s!"unsupported fraction of second: {v} with {d} digits"
  | .offsetOutOfRange o => s!"UTC offset out of range: {decimal o} minutes"
  | .outOfRange => "timestamp is outside the representable range"

/-- The seconds from 1601-01-01 to 1970-01-01. -/
def webkitEpochShift : Int := 11644473600

/-- The seconds from 1970-01-01 to 2001-01-01. -/
def cocoaEpochShift : Int := 978307200

/-- The timestamp of a value, or `outOfRange`. -/
def stamp (resolution : Resolution) (value : Int) (isLocal : Bool) :
    Except TimeError Timestamp :=
  match Timestamp.make? resolution value isLocal with
  | some t => .ok t
  | none => .error .outOfRange

/-- Refuses a negative count unless negative counts are allowed. -/
def checkSign (hints : TimeHints) (value : Int) : Except TimeError Unit :=
  if value < 0 ∧ !hints.allowNegativeEpoch then .error (.negativeEpoch value) else .ok ()

/-- The microseconds of a fraction of a second, when it has 1 to 9 digits and
fewer digits than its value. -/
def Fraction.toMicros (f : Fraction) : Except TimeError Nat :=
  if f.digits < 1 ∨ f.digits > 9 ∨ f.value ≥ Nat.pow 10 f.digits then
    .error (.invalidFraction f.value f.digits)
  else if f.digits ≤ 6 then
    .ok (f.value * Nat.pow 10 (6 - f.digits))
  else
    .ok (f.value / Nat.pow 10 (f.digits - 6))

/-- The month number of a tuple, by number or through the table. -/
def MonthRef.resolve (months : MonthTable) : MonthRef → Except TimeError Nat
  | .number n => .ok n
  | .name s =>
    match months.number s with
    | 0 => .error (.unknownMonthName s)
    | n => .ok n

/-- The canonical timestamp of a calendar tuple. -/
def TimeTuple.normalize (months : MonthTable) (t : TimeTuple) : Except TimeError Timestamp := do
  let month ← t.month.resolve months
  if month < 1 ∨ month > 12 then throw (.monthOutOfRange month)
  if t.day = 0 ∨ t.day > daysInMonth t.year month then
    throw (.dayOutOfRange t.year month t.day)
  if t.hour > 23 then throw (.hourOutOfRange t.hour)
  if t.minute > 59 then throw (.minuteOutOfRange t.minute)
  if t.second > 59 then throw (.secondOutOfRange t.second)
  let micro ← match t.fraction with
    | some f => f.toMicros
    | none => pure 0
  if !yearRepresentable t.year then throw .outOfRange
  let seconds : Int := daysFromCivil t.year month t.day * 86400 +
    (t.hour * 3600 + t.minute * 60 + t.second : Nat)
  let wallClock := seconds * 1000000 + micro
  let (instant, isLocal) ← match t.utcOffset with
    | none => pure (wallClock, true)
    | some offset =>
      if offset.natAbs ≥ 1440 then throw (.offsetOutOfRange offset)
      else
        let shifted := wallClock - offset * 60 * 1000000
        if minMicros ≤ shifted ∧ shifted ≤ maxMicros then pure (shifted, false)
        else throw .outOfRange
  match t.fraction with
  | some _ => stamp .micros instant isLocal
  | none => stamp .seconds (instant / 1000000) isLocal

/-- The canonical timestamp of a raw time. -/
def RawTime.normalize (hints : TimeHints) : RawTime → Except TimeError Timestamp
  | .epochSeconds v => do checkSign hints v; stamp .seconds v false
  | .epochMillis v => do checkSign hints v; stamp .millis v false
  | .webkitMicros v => do
    checkSign hints v
    let posix := v - webkitEpochShift * 1000000
    if posix < -9223372036854775808 then throw .outOfRange
    stamp .micros posix false
  | .cocoaMicros v => do
    let posix := v + cocoaEpochShift * 1000000
    if posix > 9223372036854775807 then throw .outOfRange
    checkSign hints posix
    stamp .micros posix false
  | .tuple t => t.normalize hints.months

end Timeline.Time
