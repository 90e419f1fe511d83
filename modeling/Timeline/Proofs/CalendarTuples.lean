import Mathlib
import Timeline.Proofs.TimeTuples
import Timeline.Proofs.EpochTimes
/-!
# Normalizing calendar tuples

A calendar tuple is checked field by field before it becomes a timestamp. This
module states the checks in the terms of the calendar, in the order they are
made, and shows that normalizing a tuple with the English month table gives the
error of the first check that fails, and otherwise the timestamp of the exact
proleptic Gregorian instant.

* The checks. `TimeTuple.failures` lists, in order, what each check gives: an
  unknown month name, a month outside 1 to 12, a day outside its month, an hour,
  minute or second out of range, a fraction with other than 1 to 9 digits or
  more digits than it may have, a year outside -262143 to 262142, an offset of a
  day or more, and an instant moved by its offset out of the representable
  range. `TimeTuple.firstFailure` is the first of them that fails.
* The leap rule. Days are checked against `monthDays`, whose leap years are
  stated with a remainder that truncates towards zero; it agrees with the
  calendar's `daysInMonth` (`daysInMonth_eq_monthDays`).
* The fraction. Its microseconds are `value * 10^6 / 10^digits` rounded down,
  whether it has fewer digits than six or more (`Fraction.toMicros_eq`).
* The instant. `TimeTuple.instantMicros` counts the days from 1970, the time of
  day and the fraction, less the offset. A tuple that passes every check has a
  representable instant (`Passes.representable_instantMicros`), so its
  timestamp always exists.

`TimeTuple.normalize_english` states normalizing as the first failure or the
stamp of the instant; the main statement, `TimeTuple.normalize_tuple_first_failure`,
adds that the stamp exists and carries the instant exactly.
-/

namespace Timeline.Time

/-! ## The leap rule -/

/-- A remainder that truncates towards zero is zero exactly when the one that
rounds down is. -/
theorem tmod_eq_zero_iff_emod {a : Int} (b : Int) : a.tmod b = 0 ↔ a % b = 0 := by
  rw [← Int.dvd_iff_tmod_eq_zero, Int.dvd_iff_emod_eq_zero]

/-- The days of a month, leap years stated with a remainder that truncates
towards zero: four divides the year and a hundred does not, or four hundred
divides it. -/
def monthDays (year : Int) (month : Nat) : Nat :=
  if month = 4 ∨ month = 6 ∨ month = 9 ∨ month = 11 then 30
  else if month = 2 then
    if (year.tmod 4 = 0 ∧ year.tmod 100 ≠ 0) ∨ year.tmod 400 = 0 then 29 else 28
  else 31

theorem daysInMonth_eq_monthDays (year : Int) (month : Nat) : daysInMonth year month = monthDays year month := by
  have hleap : isLeapYear year = true ↔ (year.tmod 4 = 0 ∧ year.tmod 100 ≠ 0) ∨ year.tmod 400 = 0 := by
    simp only [isLeapYear_iff, ne_eq, tmod_eq_zero_iff_emod]
  unfold daysInMonth monthDays
  -- the months of thirty days, February, and the rest
  by_cases h30 : month = 4 ∨ month = 6 ∨ month = 9 ∨ month = 11
  · rcases h30 with rfl | rfl | rfl | rfl <;> rfl
  · rw [if_neg h30]
    by_cases h2 : month = 2
    · subst h2
      by_cases hc : (year.tmod 4 = 0 ∧ year.tmod 100 ≠ 0) ∨ year.tmod 400 = 0
      · simp [hleap.mpr hc, hc]
      · have hl : isLeapYear year = false := by simpa using hleap.not.mpr hc
        simp [hl, hc]
    · rw [if_neg h2]
      split
      · omega
      · omega
      · omega
      · omega
      · exact absurd rfl h2
      · rfl

/-! ## The fraction -/

/-- A fraction is valid when it has one to nine digits and its value has no more. -/
def Fraction.Valid (f : Fraction) : Prop :=
  1 ≤ f.digits ∧ f.digits ≤ 9 ∧ f.value < 10 ^ f.digits

instance (f : Fraction) : Decidable f.Valid := inferInstanceAs (Decidable (_ ∧ _))

/-- A valid fraction is `value * 10^6 / 10^digits` microseconds, rounded down:
scaled up when it has fewer than six digits, cut when it has more. -/
theorem Fraction.toMicros_eq (f : Fraction) :
    f.toMicros = if f.Valid then .ok (f.value * 10 ^ 6 / 10 ^ f.digits)
      else .error (.invalidFraction f.value f.digits) := by
  by_cases hv : f.Valid
  · obtain ⟨h1, h9, hlt⟩ := hv
    rw [if_pos ⟨h1, h9, hlt⟩, toMicros, if_neg (by simp only [Nat.pow_eq]; omega)]
    simp only [Nat.pow_eq]
    by_cases h6 : f.digits ≤ 6
    · -- scaled up: `10^6` is `10^(6 - digits) * 10^digits`
      rw [if_pos h6, ← Nat.pow_sub_mul_pow 10 h6, ← Nat.mul_assoc,
        Nat.mul_div_cancel _ (by positivity)]
    · -- cut: `10^digits` is `10^(digits - 6) * 10^6`
      rw [if_neg h6, ← Nat.pow_sub_mul_pow 10 (show 6 ≤ f.digits by omega),
        Nat.mul_div_mul_right _ _ (by positivity)]
  · rw [if_neg hv, toMicros, if_pos]
    simp only [Valid, not_and, not_lt] at hv
    simp only [Nat.pow_eq]
    omega

/-- The microseconds of a valid fraction are less than a second. -/
theorem Fraction.Valid.micros_lt {f : Fraction} (h : f.Valid) : f.value * 10 ^ 6 / 10 ^ f.digits < 10 ^ 6 := by
  rw [Nat.div_lt_iff_lt_mul (by positivity), Nat.mul_comm]
  exact Nat.mul_lt_mul_of_pos_left h.2.2 (by positivity)

/-! ## The checks -/

namespace TimeTuple

/-- The failure of a month's name that the English table lacks. -/
def nameFailure (t : TimeTuple) : Option TimeError :=
  match t.month with
  | .name s => if MonthTable.english.number s = 0 then some (.unknownMonthName s) else none
  | .number _ => none

/-- The number of a tuple's month: the number it gives, or the one the English
table has for its name (0 for a name the table lacks). -/
def monthNumber (t : TimeTuple) : Nat :=
  match t.month with
  | .number n => n
  | .name s => MonthTable.english.number s

/-- The microseconds of a tuple's fraction, rounded down; none without one. -/
def fractionPart (t : TimeTuple) : Nat :=
  match t.fraction with
  | some f => f.value * 10 ^ 6 / 10 ^ f.digits
  | none => 0

/-- The wall-clock instant of a tuple in microseconds: the days from 1970 to its
date, its time of day and its fraction. -/
def wallMicros (t : TimeTuple) : Int :=
  daysFromCivil t.year t.monthNumber t.day * 86400 * 1000000 +
    ((t.hour * 3600 + t.minute * 60 + t.second : Nat) : Int) * 1000000 + t.fractionPart

/-- The instant of a tuple: its wall clock, less its offset when it has one. -/
def instantMicros (t : TimeTuple) : Int :=
  t.wallMicros - t.utcOffset.getD 0 * 60 * 1000000

/-- A tuple is read to the microsecond when it has a fraction, to the second
otherwise. -/
def resolution (t : TimeTuple) : Resolution :=
  match t.fraction with
  | some _ => .micros
  | none => .seconds

/-- What each check of a tuple gives, in order: the error when it fails. -/
def failures (t : TimeTuple) : List (Option TimeError) :=
  [ t.nameFailure,
    if t.monthNumber < 1 ∨ t.monthNumber > 12 then some (.monthOutOfRange t.monthNumber) else none,
    if t.day < 1 ∨ t.day > monthDays t.year t.monthNumber then
      some (.dayOutOfRange t.year t.monthNumber t.day) else none,
    if t.hour > 23 then some (.hourOutOfRange t.hour) else none,
    if t.minute > 59 then some (.minuteOutOfRange t.minute) else none,
    if t.second > 59 then some (.secondOutOfRange t.second) else none,
    match t.fraction with
    | some f => if f.Valid then none else some (.invalidFraction f.value f.digits)
    | none => none,
    if t.year < -262143 ∨ t.year > 262142 then some .outOfRange else none,
    match t.utcOffset with
    | some offset => if offset.natAbs ≥ 1440 then some (.offsetOutOfRange offset) else none
    | none => none,
    match t.utcOffset with
    | some _ => if Representable t.instantMicros then none else some .outOfRange
    | none => none ]

/-- The error of the first check a tuple fails, if any. -/
def firstFailure (t : TimeTuple) : Option TimeError :=
  t.failures.findSome? id

theorem findSome?_id_cons {α : Type} (x : Option α) (xs : List (Option α)) :
    (x :: xs).findSome? id = x.or (xs.findSome? id) := by
  cases x <;> rfl

theorem ite_some_or {α : Type} (c : Prop) [Decidable c] (a : α) (rest : Option α) :
    (if c then some a else none).or rest = if c then some a else rest := by
  split <;> rfl

/-! ## Normalizing, check by check -/

/-- The English table resolves a month to its number, unless its name is unknown. -/
theorem resolve_english (t : TimeTuple) :
    t.month.resolve .english = match t.nameFailure with
      | some e => .error e
      | none => .ok t.monthNumber := by
  unfold nameFailure monthNumber
  cases t.month with
  | number n => rfl
  | name s =>
    by_cases hs : MonthTable.english.number s = 0
    · simp [MonthRef.resolve, hs]
    · simp only [MonthRef.resolve, hs, if_false]

theorem not_yearRepresentable_iff (y : Int) :
    (!yearRepresentable y) = true ↔ y < -262143 ∨ y > 262142 := by
  simp only [yearRepresentable, Bool.not_eq_true', Bool.and_eq_false_iff, decide_eq_false_iff_not]
  omega

/-- Normalizing with the English table fails with the first failing check, and
otherwise stamps the tuple's instant. -/
theorem normalize_english (t : TimeTuple) :
    t.normalize .english = match t.firstFailure with
      | some e => .error e
      | none => t.stampOf t.instantMicros t.utcOffset.isNone := by
  have hfirst : t.firstFailure = t.nameFailure.or ((t.failures.drop 1).findSome? id) := by
    rw [firstFailure, failures, findSome?_id_cons]; rfl
  rw [hfirst]
  unfold normalize
  rw [resolve_english]
  cases hname : t.nameFailure with
  | some e => rfl
  | none =>
    simp only [failures, List.drop_succ_cons, List.drop_zero, findSome?_id_cons, List.findSome?_nil,
      Option.none_or, ite_some_or, ← daysInMonth_eq_monthDays, ← not_yearRepresentable_iff,
      Nat.lt_one_iff, bind, Except.bind, throw, throwThe, MonadExceptOf.throw, pure, Except.pure]
    -- the checks of the fields, made in the same order on both sides
    by_cases hmonth : t.monthNumber = 0 ∨ t.monthNumber > 12
    · simp only [hmonth, ↓reduceIte]
    by_cases hday : t.day = 0 ∨ t.day > daysInMonth t.year t.monthNumber
    · simp only [hmonth, hday, ↓reduceIte]
    by_cases hhour : t.hour > 23
    · simp only [hmonth, hday, hhour, ↓reduceIte]
    by_cases hminute : t.minute > 59
    · simp only [hmonth, hday, hhour, hminute, ↓reduceIte]
    by_cases hsecond : t.second > 59
    · simp only [hmonth, hday, hhour, hminute, hsecond, ↓reduceIte]
    simp only [hmonth, hday, hhour, hminute, hsecond, ↓reduceIte]
    have hwall : ∀ v : Nat, (v : Int) = t.fractionPart →
        (daysFromCivil t.year t.monthNumber t.day * 86400 +
          ((t.hour * 3600 + t.minute * 60 + t.second : Nat) : Int)) * 1000000 + v = t.wallMicros := by
      intro v hv
      rw [hv, wallMicros]
      ring
    -- the fraction fails, or gives the microseconds of the wall clock that the
    -- year and offset checks then read alike on both sides
    cases hf : t.fraction with
    | none =>
      dsimp only
      rw [hwall 0 (by simp [fractionPart, hf])]
      cases ho : t.utcOffset <;>
        simp only [instantMicros, ho, Option.getD_none, Option.getD_some, zero_mul, sub_zero,
          Representable, Option.none_or, Option.or_none] <;>
        split_ifs <;> simp [stampOf, hf]
    | some f =>
      dsimp only
      rw [Fraction.toMicros_eq]
      by_cases hv : f.Valid
      · simp only [hv, ↓reduceIte, Option.none_or]
        rw [hwall _ (by simp [fractionPart, hf])]
        cases ho : t.utcOffset <;>
          simp only [instantMicros, ho, Option.getD_none, Option.getD_some, zero_mul, sub_zero,
            Representable, Option.or_none] <;>
          split_ifs <;> simp [stampOf, hf]
      · simp [hv]

/-! ## A tuple that passes every check -/

/-- What a tuple that passes every check satisfies. -/
structure Passes (t : TimeTuple) : Prop where
  name : t.nameFailure = none
  month : 1 ≤ t.monthNumber ∧ t.monthNumber ≤ 12
  day : 1 ≤ t.day ∧ t.day ≤ monthDays t.year t.monthNumber
  clock : t.hour ≤ 23 ∧ t.minute ≤ 59 ∧ t.second ≤ 59
  fraction : ∀ f, t.fraction = some f → f.Valid
  year : -262143 ≤ t.year ∧ t.year ≤ 262142
  offset : ∀ o, t.utcOffset = some o → o.natAbs < 1440 ∧ Representable t.instantMicros

theorem passes_of_firstFailure {t : TimeTuple} (h : t.firstFailure = none) : t.Passes := by
  simp only [firstFailure, failures, findSome?_id_cons, List.findSome?_nil, Option.or_eq_none_iff,
    ite_eq_right_iff, reduceCtorEq, imp_false, and_true] at h
  obtain ⟨hname, hmonth, hday, hhour, hminute, hsecond, hfrac, hyear, hoff, hrep⟩ := h
  refine ⟨hname, by omega, by omega, by omega, fun f hf => ?_, by omega, fun o ho => ?_⟩
  · simpa [hf] using hfrac
  · simp only [ho, ite_eq_right_iff, ite_eq_left_iff, reduceCtorEq, imp_false, not_not] at hoff hrep
    exact ⟨by omega, hrep⟩

/-- The count of a tuple's reading is its wall clock. -/
theorem reading_micros (t : TimeTuple) : (t.reading t.monthNumber t.fractionPart).micros = t.wallMicros := by
  simp only [DateTime.micros, reading, wallMicros]
  push_cast
  ring

/-- A tuple that passes every check is a readable one: its month resolves, its
fraction gives its microseconds, and its reading is valid in a representable year. -/
theorem Passes.readable {t : TimeTuple} (h : t.Passes) : t.Readable .english t.monthNumber t.fractionPart := by
  refine ⟨by rw [resolve_english, h.name], ?_, ?_, ?_⟩
  · unfold TimeTuple.fractionMicros fractionPart
    cases hf : t.fraction with
    | none => rfl
    | some f =>
      dsimp only
      rw [Fraction.toMicros_eq, if_pos (h.fraction f hf)]
  · refine ⟨⟨h.month.1, h.month.2, h.day.1, ?_⟩, h.clock.1, h.clock.2.1, h.clock.2.2, ?_⟩
    · rw [daysInMonth_eq_monthDays]
      exact h.day.2
    · unfold fractionPart
      cases hf : t.fraction with
      | none => simp [reading]
      | some f => exact (h.fraction f hf).micros_lt
  · simp only [yearRepresentable, Bool.and_eq_true, decide_eq_true_eq]
    exact h.year

/-- The instant of a tuple that passes every check is representable: with an
offset one check says so, and without one the reading lies in a representable year. -/
theorem Passes.representable_instantMicros {t : TimeTuple} (h : t.Passes) :
    Representable t.instantMicros := by
  cases ho : t.utcOffset with
  | none =>
    have hwall : t.instantMicros = (t.reading t.monthNumber t.fractionPart).micros := by
      simp [instantMicros, ho, reading_micros]
    rw [hwall]
    exact DateTime.representable_micros h.readable.valid h.readable.inRange
  | some o => exact (h.offset o ho).2

/-- Without a fraction, the instant is a whole number of seconds. -/
theorem instantMicros_emod_of_fraction {t : TimeTuple} (hf : t.fraction = none) :
    t.instantMicros % 1000000 = 0 := by
  simp only [instantMicros, wallMicros, fractionPart, hf]
  omega

/-- Normalizing a calendar tuple with the English month table gives the error of
the first check the tuple fails. A tuple that passes them all gives a timestamp
of its instant: to the microsecond with a fraction and to the second without,
and a wall-clock reading exactly when the tuple has no offset. -/
theorem normalize_tuple_first_failure (t : TimeTuple) (allow : Bool) :
    (fun ts : Timestamp => (ts.micros, ts.resolution, ts.isLocal)) <$>
        (RawTime.tuple t).normalize ⟨.english, allow⟩ =
      match t.firstFailure with
      | some e => .error e
      | none => .ok (t.instantMicros, t.resolution, t.utcOffset.isNone) := by
  rw [RawTime.normalize, normalize_english]
  cases hfirst : t.firstFailure with
  | some e => rfl
  | none =>
    have hrep := (passes_of_firstFailure hfirst).representable_instantMicros
    unfold stampOf resolution
    cases hf : t.fraction with
    | some f =>
      dsimp only
      rw [stamp_of_representable _ (by rwa [Resolution.microsPerUnit, Int.mul_one])]
      simp [Functor.map, Except.map, Timestamp.micros, Resolution.microsPerUnit]
    | none =>
      have hwhole : t.instantMicros / 1000000 * Resolution.seconds.microsPerUnit = t.instantMicros := by
        have hsec := instantMicros_emod_of_fraction hf
        rw [Resolution.microsPerUnit]
        omega
      dsimp only
      rw [stamp_of_representable _ (by rwa [hwhole])]
      simp [Functor.map, Except.map, Timestamp.micros, hwhole]

/- 1900 is not a leap year, and the day is checked before the hour. -/
example : TimeTuple.firstFailure ⟨1900, .number 2, 29, 24, 0, 0, none, none⟩ =
    some (.dayOutOfRange 1900 2 29) := by decide

end TimeTuple

end Timeline.Time
