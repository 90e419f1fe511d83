import Timeline.Time.Calendar
import Timeline.Text.Decimal
import Timeline.Number.Read
/-!
# Canonical timestamps

A timestamp is an instant counted from 1970-01-01T00:00:00 in one of three
units (seconds, milliseconds or microseconds), together with a flag telling
whether the instant is a wall-clock reading of unknown zone rather than a time
in UTC. A timestamp exists only for a value whose reading the calendar computes
(`naiveDateTime?`): the instant in microseconds must fit in 64 bits, and its
whole seconds must fall on a date of the years -262143 to 262142, counted in
32-bit days. `Timestamp.make?` builds one or reports `outOfRange`.

Timestamps are compared by their instant in microseconds alone: the unit and
the flag take no part in equality, order or hashing.

A timestamp is written in ISO 8601 form: the date, `T`, the time of day, three
or six fraction digits for millisecond or microsecond timestamps, and a final
`Z` for UTC timestamps. The year has four digits at least, and a sign when it
lies outside 0 to 9999.
-/

namespace Timeline.Time

open Text

/-- The unit in which a timestamp counts. -/
inductive Resolution where
  | seconds
  | millis
  | micros
  deriving DecidableEq, Repr

/-- The number of microseconds in one unit. -/
def Resolution.microsPerUnit : Resolution → Int
  | .seconds => 1000000
  | .millis => 1000
  | .micros => 1

/-- The name of a unit. -/
def Resolution.name : Resolution → String
  | .seconds => "seconds"
  | .millis => "millis"
  | .micros => "micros"

/-- The first representable second: -262143-01-01T00:00:00. -/
def minSeconds : Int := -8334601228800

/-- The last representable second: 262142-12-31T23:59:59. -/
def maxSeconds : Int := 8210266876799

/-- The first representable microsecond. -/
def minMicros : Int := minSeconds * 1000000

/-- The last representable microsecond. -/
def maxMicros : Int := maxSeconds * 1000000 + 999999

/-- An instant in microseconds is representable when it lies between the two ends. -/
def Representable (micros : Int) : Prop :=
  minMicros ≤ micros ∧ micros ≤ maxMicros

instance (micros : Int) : Decidable (Representable micros) :=
  inferInstanceAs (Decidable (_ ∧ _))

/-- A wall-clock reading: a date and a time of day to the microsecond. -/
structure DateTime where
  date : Date
  hour : Nat
  minute : Nat
  second : Nat
  micro : Nat
  deriving DecidableEq, Repr

/-- The first year and the last year of the range dates can hold. -/
def yearRepresentable (year : Int) : Bool :=
  -262143 ≤ year && year ≤ 262142

/-- Whether a second of the day and the nanoseconds past it name a time of day.
From 10^9 nanoseconds on they name a leap second, which only the last second of
a minute has. -/
def timeOfDayValid (secs : Int) (nanos : Nat) : Bool :=
  secs < 86400 && (nanos < 1000000000 || (nanos < 2000000000 && secs % 60 == 59))

/-- The date of day `days` counted from 0001-01-01, which is day 1, when its
year is one that dates can hold. -/
def dateOfCeDays? (days : Int) : Option Date :=
  let date := civilFromDays (days - 719163)
  if yearRepresentable date.year then some date else none

/-- The reading of a count of seconds from 1970 and of the nanoseconds past it,
when the calendar holds it. The seconds split into days and seconds of the day,
rounding down; the days must fit in 32 bits, also once counted from 0001-01-01,
and name a date, and the seconds of the day with the nanoseconds a time of day. -/
def fromTimestamp? (secs : Int) (nanos : Nat) : Option DateTime :=
  let days := secs / 86400
  let inDay := secs % 86400
  if days < Number.int32Min ∨ Number.int32Max < days ∨ Number.int32Max < days + 719163 then none
  else
    (dateOfCeDays? (days + 719163)).bind fun date =>
      if timeOfDayValid inDay nanos then
        some
          { date := date
            hour := (inDay / 3600).toNat
            minute := (inDay / 60 % 60).toNat
            second := (inDay % 60).toNat
            micro := nanos / 1000 }
      else none

/-- The reading of a value in a unit, as the calendar computes it. The instant
in microseconds must fit in 64 bits; it splits into whole seconds, rounding
down, and the nanoseconds past them, which must fit in 32 unsigned bits; the
calendar must hold both. -/
def naiveDateTime? (resolution : Resolution) (value : Int) : Option DateTime :=
  let micros := value * resolution.microsPerUnit
  if micros < Number.int64Min ∨ Number.int64Max < micros then none
  else
    let nanos := micros % 1000000 * 1000
    if nanos < 0 ∨ Number.uint32Max < nanos then none
    else fromTimestamp? (micros / 1000000) nanos.toNat

/-- An instant, its unit, and whether it is a wall-clock reading; the calendar
computes its reading. -/
structure Timestamp where
  resolution : Resolution
  value : Int
  isLocal : Bool
  valid : (naiveDateTime? resolution value).isSome

/-- The instant of a timestamp in microseconds. -/
def Timestamp.micros (t : Timestamp) : Int :=
  t.value * t.resolution.microsPerUnit

/-- The timestamp of a value in a unit, when the calendar computes its reading. -/
def Timestamp.make? (resolution : Resolution) (value : Int) (isLocal : Bool) :
    Option Timestamp :=
  if h : (naiveDateTime? resolution value).isSome then
    some ⟨resolution, value, isLocal, h⟩
  else
    none

/-- Timestamps are ordered by their instants. -/
instance : Ord Timestamp where
  compare a b := compare a.micros b.micros

/-- Timestamps are equal when their instants are. -/
instance : BEq Timestamp where
  beq a b := a.micros == b.micros

/-- A timestamp hashes as its instant. -/
instance : Hashable Timestamp where
  hash t := hash t.micros

instance : LT Timestamp := ltOfOrd

instance : LE Timestamp := leOfOrd

/-- The date and time of day of an instant in microseconds. -/
def DateTime.ofMicros (micros : Int) : DateTime :=
  let dayMicros : Int := 86400000000
  let days := micros / dayMicros
  let inDay := (micros % dayMicros).toNat
  let seconds := inDay / 1000000
  { date := civilFromDays days
    hour := seconds / 3600
    minute := seconds / 60 % 60
    second := seconds % 60
    micro := inDay % 1000000 }

/-- The date and time of day of a timestamp. -/
def Timestamp.dateTime (t : Timestamp) : DateTime :=
  DateTime.ofMicros t.micros

/-- A year as dates write it: four digits at least, and a sign outside 0 to 9999. -/
def yearText (year : Int) : String :=
  if 0 ≤ year ∧ year ≤ 9999 then padded 4 year.toNat
  else if year < 0 then "-" ++ padded 4 year.natAbs
  else "+" ++ padded 4 year.toNat

/-- `YYYY-MM-DD`, then `sep`, then `hh:mm:ss`. -/
def DateTime.render (d : DateTime) (sep : String) : String :=
  yearText d.date.year ++ "-" ++ padded 2 d.date.month ++ "-" ++ padded 2 d.date.day ++ sep ++
    padded 2 d.hour ++ ":" ++ padded 2 d.minute ++ ":" ++ padded 2 d.second

/-- The ISO 8601 text of a timestamp. -/
def Timestamp.iso (t : Timestamp) : String :=
  let d := t.dateTime
  let fraction :=
    match t.resolution with
    | .seconds => ""
    | .millis => "." ++ padded 3 (d.micro / 1000)
    | .micros => "." ++ padded 6 d.micro
  d.render "T" ++ fraction ++ (if t.isLocal then "" else "Z")

/-- The wall-clock text of a timestamp, always with six fraction digits. -/
def Timestamp.naiveText (t : Timestamp) : String :=
  let d := t.dateTime
  d.render " " ++ "." ++ padded 6 d.micro

end Timeline.Time
