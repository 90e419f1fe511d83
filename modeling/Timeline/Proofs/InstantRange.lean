import Timeline.Proofs.CivilDays
import Timeline.Time.Timestamp
/-!
# The representable instants

A timestamp exists for a value exactly when the calendar computes its reading
(`naiveDateTime?`), through a chain of checks: the instant in microseconds fits
in 64 bits, its nanoseconds past the second in 32 unsigned bits, its days in 32
bits also when counted from 0001-01-01, its date lies in a year from -262143 to
262142, and its second of the day with the nanoseconds names a time of day.
This module shows that the chain accepts one interval of instants, from
-262143-01-01T00:00:00 to 262142-12-31T23:59:59.999999 (`Representable`), in
whatever unit the value counts.

* Dates. A day count from 0001-01-01 has a date exactly when it lies in the
  representable years (`dateOfCeDays?_eq`).
* Seconds. The nanoseconds a microsecond count leaves never make a leap second,
  so the reading of whole seconds exists exactly when their day is one of those
  years (`fromTimestamp?_eq`).
* Readings. A representable instant passes the 64-bit check and gives such
  nanoseconds, and every other one fails: the reading exists exactly for the
  representable instants, and it is `DateTime.ofMicros` of the instant
  (`naiveDateTime?_eq`).
* Timestamps. Every timestamp is representable (`Timestamp.representable`), the
  calendar reads it as its `dateTime` (`Timestamp.naiveDateTime?_eq`), and
  `Timestamp.make?` builds one exactly for the representable instants
  (`Timestamp.make?_eq`, `Timestamp.make?_isSome_iff`).
-/

namespace Timeline.Time

theorem yearRepresentable_iff (year : Int) :
    yearRepresentable year = true ↔ -262143 ≤ year ∧ year ≤ 262142 := by
  simp [yearRepresentable]

/-- A day count from 0001-01-01 has a date exactly for the days of the years
from -262143 to 262142. -/
theorem dateOfCeDays?_eq (days : Int) :
    dateOfCeDays? days =
      if -96465292 ≤ days - 719163 ∧ days - 719163 ≤ 95026236 then
        some (civilFromDays (days - 719163))
      else none := by
  unfold dateOfCeDays?
  simp only [yearRepresentable_iff, civilFromDays_year_bounds_iff]

/-- The date and time of an instant in microseconds, written from its whole
seconds and the nanoseconds past them. -/
def DateTime.ofSeconds (secs : Int) (nanos : Nat) : DateTime :=
  { date := civilFromDays (secs / 86400), hour := (secs % 86400 / 3600).toNat,
    minute := (secs % 86400 / 60 % 60).toNat, second := (secs % 86400 % 60).toNat,
    micro := nanos / 1000 }

/-- Whole seconds with less than a second of nanoseconds have a reading exactly
when their day lies in the representable years. -/
theorem fromTimestamp?_eq {secs : Int} {nanos : Nat} (hn : nanos < 1000000000) :
    fromTimestamp? secs nanos =
      if -96465292 ≤ secs / 86400 ∧ secs / 86400 ≤ 95026236 then some (DateTime.ofSeconds secs nanos)
      else none := by
  have htime : timeOfDayValid (secs % 86400) nanos = true := by
    simp only [timeOfDayValid, Bool.and_eq_true, Bool.or_eq_true, decide_eq_true_eq]
    omega
  unfold fromTimestamp?
  dsimp only
  by_cases hdays : -96465292 ≤ secs / 86400 ∧ secs / 86400 ≤ 95026236
  · -- a day of the representable years fits in 32 bits, also from 0001-01-01
    have hfits : ¬(secs / 86400 < Number.int32Min ∨ Number.int32Max < secs / 86400 ∨
        Number.int32Max < secs / 86400 + 719163) := by
      simp only [Number.int32Min, Number.int32Max]
      omega
    rw [if_neg hfits, if_pos hdays, dateOfCeDays?_eq, Int.add_sub_cancel, if_pos hdays,
      Option.bind_some, if_pos htime]
    rfl
  · rw [if_neg hdays]
    split
    · rfl
    · rw [dateOfCeDays?_eq, Int.add_sub_cancel, if_neg hdays, Option.bind_none]

/-- The whole seconds and nanoseconds of an instant give the date and time
`DateTime.ofMicros` writes. -/
theorem ofSeconds_eq_ofMicros (micros : Int) :
    DateTime.ofSeconds (micros / 1000000) (micros % 1000000 * 1000).toNat =
      DateTime.ofMicros micros := by
  simp only [DateTime.ofSeconds, DateTime.ofMicros, DateTime.mk.injEq]
  refine ⟨?_, ?_, ?_, ?_, ?_⟩
  · congr 1
    omega
  all_goals omega

/-- The representable instants are those of the days from -96465292 to 95026236. -/
theorem representable_iff_days (micros : Int) :
    Representable micros ↔ -96465292 ≤ micros / 86400000000 ∧ micros / 86400000000 ≤ 95026236 := by
  simp only [Representable, minMicros, maxMicros, minSeconds, maxSeconds]
  omega

/-- A representable instant fits in 64 bits. -/
theorem Representable.fits_int64 {micros : Int} (h : Representable micros) :
    Number.int64Min ≤ micros ∧ micros ≤ Number.int64Max := by
  simp only [Representable, minMicros, maxMicros, minSeconds, maxSeconds] at h
  simp only [Number.int64Min, Number.int64Max]
  omega

/-- The reading of a value exists exactly when its instant is representable,
and it is the date and time of that instant. -/
theorem naiveDateTime?_eq (resolution : Resolution) (value : Int) :
    naiveDateTime? resolution value =
      if Representable (value * resolution.microsPerUnit) then
        some (DateTime.ofMicros (value * resolution.microsPerUnit))
      else none := by
  unfold naiveDateTime?
  dsimp only
  generalize value * resolution.microsPerUnit = micros
  -- the nanoseconds past a second are fewer than a second, whatever the sign
  have hnanos : ¬(micros % 1000000 * 1000 < 0 ∨ Number.uint32Max < micros % 1000000 * 1000) := by
    simp only [Number.uint32Max]
    omega
  have hdays : Representable micros ↔
      -96465292 ≤ micros / 1000000 / 86400 ∧ micros / 1000000 / 86400 ≤ 95026236 := by
    rw [representable_iff_days]
    omega
  by_cases hrep : Representable micros
  · have hfits := hrep.fits_int64
    rw [if_neg (by omega), if_neg hnanos, fromTimestamp?_eq (by omega), if_pos (hdays.1 hrep),
      ofSeconds_eq_ofMicros, if_pos hrep]
  · rw [if_neg hrep]
    split
    · rfl
    · rw [fromTimestamp?_eq (by omega), if_neg (mt hdays.2 hrep)]

theorem naiveDateTime?_isSome_iff (resolution : Resolution) (value : Int) :
    (naiveDateTime? resolution value).isSome ↔ Representable (value * resolution.microsPerUnit) := by
  rw [naiveDateTime?_eq]
  split <;> simp_all

namespace Timestamp

/-- Every timestamp is representable. -/
theorem representable (t : Timestamp) : Representable t.micros :=
  (naiveDateTime?_isSome_iff t.resolution t.value).1 t.valid

/-- The calendar reads a timestamp as its date and time. -/
theorem naiveDateTime?_eq (t : Timestamp) :
    naiveDateTime? t.resolution t.value = some t.dateTime := by
  have hrep : Representable (t.value * t.resolution.microsPerUnit) := t.representable
  rw [Time.naiveDateTime?_eq, if_pos hrep]
  rfl

/-- The timestamp of a representable instant. -/
def ofRepresentable (resolution : Resolution) (value : Int) (isLocal : Bool)
    (h : Representable (value * resolution.microsPerUnit)) : Timestamp :=
  ⟨resolution, value, isLocal, (naiveDateTime?_isSome_iff resolution value).2 h⟩

section OfRepresentable

variable {resolution : Resolution} {value : Int} {isLocal : Bool}
  {h : Representable (value * resolution.microsPerUnit)}

@[simp] theorem ofRepresentable_resolution :
    (ofRepresentable resolution value isLocal h).resolution = resolution := rfl
@[simp] theorem ofRepresentable_value : (ofRepresentable resolution value isLocal h).value = value := rfl
@[simp] theorem ofRepresentable_isLocal :
    (ofRepresentable resolution value isLocal h).isLocal = isLocal := rfl
@[simp] theorem ofRepresentable_micros :
    (ofRepresentable resolution value isLocal h).micros = value * resolution.microsPerUnit := rfl

end OfRepresentable

/-- A timestamp is built exactly for the representable instants. -/
theorem make?_eq (resolution : Resolution) (value : Int) (isLocal : Bool) :
    make? resolution value isLocal =
      if h : Representable (value * resolution.microsPerUnit) then
        some (ofRepresentable resolution value isLocal h)
      else none := by
  unfold make?
  by_cases h : Representable (value * resolution.microsPerUnit)
  · rw [dif_pos ((naiveDateTime?_isSome_iff resolution value).2 h), dif_pos h]
    rfl
  · rw [dif_neg (mt (naiveDateTime?_isSome_iff resolution value).1 h), dif_neg h]

theorem make?_isSome_iff (resolution : Resolution) (value : Int) (isLocal : Bool) :
    (make? resolution value isLocal).isSome ↔ Representable (value * resolution.microsPerUnit) := by
  rw [make?_eq]
  split <;> simp_all

end Timestamp

end Timeline.Time
