import Timeline.Proofs.InstantRange
import Timeline.Time.Normalize
/-!
# Wall-clock readings and calendar tuples

A wall-clock reading (`DateTime`) is a date and a time of day to the
microsecond. `DateTime.ofMicros` reads one from a count of microseconds since
1970-01-01, and `DateTime.micros` counts the microseconds of a reading. They are
inverse between the integers and the valid readings (`DateTime.Valid`):

* `DateTime.ofMicros_valid` and `DateTime.micros_ofMicros`: every count reads as
  a valid reading whose count it is;
* `DateTime.ofMicros_micros`: every valid reading is read back from its count.

The second half gives the normalizer of calendar tuples its specification. A
tuple whose fields make a valid reading (`TimeTuple.Readable`) normalizes to
the stamp of that reading's count, moved by the offset when it has one
(`TimeTuple.normalize_of_readable`); without a fraction and an offset that is
the local stamp of the reading to the second, since every valid reading of a
representable year is representable (`TimeTuple.normalize_of_readable_local`). A month name the table lacks, or a day its
month lacks, fails with its own error (`TimeTuple.normalize_of_unknownName`,
`TimeTuple.normalize_of_day_out_of_range`).
-/

namespace Timeline.Time

/-! ## Readings and their counts -/

/-- A reading is valid when its date is and its time of day lies within a day. -/
def DateTime.Valid (d : DateTime) : Prop :=
  d.date.Valid ∧ d.hour ≤ 23 ∧ d.minute ≤ 59 ∧ d.second ≤ 59 ∧ d.micro < 1000000

/-- The microseconds from 1970-01-01T00:00:00 to a reading. -/
def DateTime.micros (d : DateTime) : Int :=
  (daysFromCivil d.date.year d.date.month d.date.day * 86400 +
    (d.hour * 3600 + d.minute * 60 + d.second : Nat)) * 1000000 + d.micro

namespace DateTime

/-- Every count reads as a valid reading. -/
theorem ofMicros_valid (m : Int) : (ofMicros m).Valid := by
  have hday : 0 ≤ m % 86400000000 ∧ m % 86400000000 < 86400000000 := by omega
  refine ⟨civilFromDays_valid _, ?_, ?_, ?_, ?_⟩ <;> simp only [ofMicros] <;> omega

/-- A count is the count of its reading. -/
theorem micros_ofMicros (m : Int) : (ofMicros m).micros = m := by
  have hday : 0 ≤ m % 86400000000 ∧ m % 86400000000 < 86400000000 := by omega
  simp only [micros, ofMicros, daysFromCivil_civilFromDays]
  omega

/-- A valid reading is read back from its count. -/
theorem ofMicros_micros {d : DateTime} (hd : d.Valid) : ofMicros d.micros = d := by
  obtain ⟨date, hour, minute, second, micro⟩ := d
  obtain ⟨hdate, hh, hmin, hs, hu⟩ : date.Valid ∧ hour ≤ 23 ∧ minute ≤ 59 ∧ second ≤ 59 ∧
    micro < 1000000 := hd
  -- the time of day is what is left of the count after the whole days
  have hdays : ((daysFromCivil date.year date.month date.day * 86400 +
      (hour * 3600 + minute * 60 + second : Nat)) * 1000000 + micro) / 86400000000 =
      daysFromCivil date.year date.month date.day := by omega
  have hrest : (((daysFromCivil date.year date.month date.day * 86400 +
      (hour * 3600 + minute * 60 + second : Nat)) * 1000000 + micro) % 86400000000).toNat =
      (hour * 3600 + minute * 60 + second) * 1000000 + micro := by omega
  simp only [ofMicros, micros, hdays, hrest, civilFromDays_daysFromCivil hdate, mk.injEq, true_and]
  omega

end DateTime

/-! ## The representable years -/

/-- The dates of the representable years, from -262143-01-01 to 262142-12-31,
lie in the representable range of days. -/
theorem daysFromCivil_bounds {year : Int} {month day : Nat} (hy : yearRepresentable year = true)
    (hm : 1 ≤ month ∧ month ≤ 12) (hd : 1 ≤ day ∧ day ≤ 31) :
    -96465292 ≤ daysFromCivil year month day ∧ daysFromCivil year month day ≤ 95026236 := by
  simp only [yearRepresentable, Bool.and_eq_true, decide_eq_true_eq] at hy
  simp only [daysFromCivil]
  split <;> split <;> omega

/-- A valid reading of a representable year has a representable count. -/
theorem DateTime.representable_micros {d : DateTime} (hd : d.Valid)
    (hy : yearRepresentable d.date.year = true) : Representable d.micros := by
  obtain ⟨⟨hm1, hm12, hd1, hdn⟩, hh, hmin, hs, hu⟩ := hd
  have hdays := daysFromCivil_bounds hy ⟨hm1, hm12⟩ ⟨hd1, Nat.le_trans hdn (daysInMonth_le _ _)⟩
  simp only [Representable, minMicros, maxMicros, minSeconds, maxSeconds, micros]
  omega

/-! ## Normalizing calendar tuples -/

theorem stamp_of_representable {resolution : Resolution} {value : Int} (isLocal : Bool)
    (h : Representable (value * resolution.microsPerUnit)) :
    stamp resolution value isLocal = .ok (.ofRepresentable resolution value isLocal h) := by
  unfold stamp
  rw [Timestamp.make?_eq, dif_pos h]

/-- The microseconds of a tuple's fraction of a second: none without one. -/
def TimeTuple.fractionMicros (t : TimeTuple) : Except TimeError Nat :=
  match t.fraction with
  | some f => f.toMicros
  | none => .ok 0

/-- The reading a tuple spells, for the number of its month and the microseconds
of its fraction. -/
def TimeTuple.reading (t : TimeTuple) (month micro : Nat) : DateTime :=
  ⟨⟨t.year, month, t.day⟩, t.hour, t.minute, t.second, micro⟩

/-- The stamp of an instant as a tuple gives it: to the microsecond with a
fraction, to the second without. -/
def TimeTuple.stampOf (t : TimeTuple) (instant : Int) (isLocal : Bool) : Except TimeError Timestamp :=
  match t.fraction with
  | some _ => stamp .micros instant isLocal
  | none => stamp .seconds (instant / 1000000) isLocal

/-- A tuple whose month resolves to `month`, whose fraction is `micro`
microseconds, and whose fields make a valid reading in a representable year. -/
structure TimeTuple.Readable (months : MonthTable) (t : TimeTuple) (month micro : Nat) : Prop where
  resolves : t.month.resolve months = .ok month
  fractionMicros : t.fractionMicros = .ok micro
  valid : (t.reading month micro).Valid
  inRange : yearRepresentable t.year = true

/-- A readable tuple normalizes to the stamp of its reading's count: a local one
without an offset, and one moved to UTC with an offset of less than a day that
keeps it in range. -/
theorem TimeTuple.normalize_of_readable {months : MonthTable} {t : TimeTuple} {month micro : Nat}
    (h : t.Readable months month micro) :
    t.normalize months =
      match t.utcOffset with
      | none => t.stampOf (t.reading month micro).micros true
      | some offset =>
        if offset.natAbs ≥ 1440 then .error (.offsetOutOfRange offset)
        else if minMicros ≤ (t.reading month micro).micros - offset * 60 * 1000000 ∧
            (t.reading month micro).micros - offset * 60 * 1000000 ≤ maxMicros then
          t.stampOf ((t.reading month micro).micros - offset * 60 * 1000000) false
        else .error .outOfRange := by
  obtain ⟨⟨hm1, hm12, hd1, hdn⟩, hh, hmin, hs, hu⟩ : (Date.mk t.year month t.day).Valid ∧
      t.hour ≤ 23 ∧ t.minute ≤ 59 ∧ t.second ≤ 59 ∧ micro < 1000000 := h.valid
  simp only at hm1 hm12 hd1 hdn
  have c1 : ¬(month < 1 ∨ month > 12) := by omega
  have c2 : ¬(t.day = 0 ∨ t.day > daysInMonth t.year month) := by omega
  have c3 : ¬t.hour > 23 := by omega
  have c4 : ¬t.minute > 59 := by omega
  have c5 : ¬t.second > 59 := by omega
  have hfrac := h.fractionMicros
  unfold fractionMicros at hfrac
  rw [normalize]
  cases hf : t.fraction with
  | none =>
    rw [hf] at hfrac
    cases hfrac
    simp only [h.resolves, c1, c2, c3, c4, c5, h.inRange, bind, Except.bind, pure, Except.pure,
      ↓reduceIte, Bool.not_true, Bool.false_eq_true]
    cases t.utcOffset <;> simp [stampOf, hf, reading, DateTime.micros, throw, throwThe,
      MonadExceptOf.throw]
  | some f =>
    rw [hf] at hfrac
    simp only [h.resolves, c1, c2, c3, c4, c5, h.inRange, bind, Except.bind, pure, Except.pure,
      ↓reduceIte, Bool.not_true, Bool.false_eq_true, hfrac]
    cases t.utcOffset <;> simp [stampOf, hf, reading, DateTime.micros, throw, throwThe,
      MonadExceptOf.throw]

/-- A readable tuple without a fraction and without an offset normalizes to a
local stamp to the second of its reading. -/
theorem TimeTuple.normalize_of_readable_local {months : MonthTable} {t : TimeTuple} {month : Nat}
    (h : t.Readable months month 0) (hfrac : t.fraction = none) (hoff : t.utcOffset = none) :
    ∃ ts, t.normalize months = .ok ts ∧ ts.resolution = .seconds ∧ ts.isLocal = true ∧
      ts.dateTime = t.reading month 0 := by
  have hrep := DateTime.representable_micros h.valid h.inRange
  -- a reading without microseconds is a whole number of seconds
  have hwhole : (t.reading month 0).micros / 1000000 * Resolution.seconds.microsPerUnit =
      (t.reading month 0).micros := by
    simp only [Resolution.microsPerUnit, DateTime.micros, reading]
    omega
  have hrep' : Representable ((t.reading month 0).micros / 1000000 * Resolution.seconds.microsPerUnit) := by
    rw [hwhole]
    exact hrep
  rw [normalize_of_readable h, hoff]
  simp only [stampOf, hfrac]
  rw [stamp_of_representable true hrep']
  refine ⟨_, rfl, rfl, rfl, ?_⟩
  rw [Timestamp.dateTime, Timestamp.ofRepresentable_micros, hwhole, DateTime.ofMicros_micros h.valid]

/-- A month name that the table lacks fails first. -/
theorem TimeTuple.normalize_of_unknownName {months : MonthTable} {t : TimeTuple} {name : String}
    (hname : t.month = .name name) (hnumber : months.number name = 0) :
    t.normalize months = .error (.unknownMonthName name) := by
  simp [normalize, hname, MonthRef.resolve, hnumber, bind, Except.bind]

/-- A day that its month lacks fails once the month is known. -/
theorem TimeTuple.normalize_of_day_out_of_range {months : MonthTable} {t : TimeTuple} {month : Nat}
    (hmonth : t.month.resolve months = .ok month) (hm : 1 ≤ month ∧ month ≤ 12)
    (hday : t.day = 0 ∨ t.day > daysInMonth t.year month) :
    t.normalize months = .error (.dayOutOfRange t.year month t.day) := by
  have c1 : month ≠ 0 ∧ month ≤ 12 := by omega
  simp [normalize, hmonth, c1, hday, bind, Except.bind, throw, throwThe, MonadExceptOf.throw]

end Timeline.Time
