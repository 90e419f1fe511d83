import Mathlib
import Timeline.Time.Timestamp
import Timeline.Proofs.CivilDays
/-!
# Timestamps in chronological order

Timestamps are compared, tested for equality and hashed by their instant in
microseconds alone. This module shows that this is the order of their clock
readings, the date and time of day that `Timestamp.dateTime` gives.

* Calendar order. Dates are ordered by year, then month, then day
  (`Date.key`), and clock readings by date, then hour, minute, second and
  microsecond (`DateTime.key`).
* Months. A month has the index `12 * year + month`, and `monthFirstDay`
  counts the days to its first day. A date's day count is that of the first of
  its month plus the days before it in the month
  (`daysFromCivil_eq_monthFirstDay`), and consecutive months lie as many days
  apart as `daysInMonth` says (`monthFirstDay_add_one`). So day counts grow with
  valid dates (`daysFromCivil_lt_of_lt`), and `civilFromDays` is strictly
  increasing (`civilFromDays_strictMono`).
* Clock readings. `DateTime.ofMicros` splits an instant into a day and a time
  of that day, and both grow with the instant: it is strictly increasing too
  (`DateTime.ofMicros_strictMono`).
* Timestamps. Comparison is the comparison of clock readings
  (`Timestamp.compare_eq_compare_dateTime`); it is a lawful total preorder whose
  equality is `==` and whose strict part is `<`, and timestamps that are `==`
  hash alike (`Timestamp.chronological`).
-/

namespace Timeline.Time

/-! ## Calendar order -/

/-- Dates in calendar order: by year, then month, then day. -/
def Date.key (d : Date) : Int ×ₗ Nat ×ₗ Nat := toLex (d.year, toLex (d.month, d.day))

theorem Date.key_injective : Function.Injective Date.key := by
  rintro ⟨y, m, d⟩ ⟨y', m', d'⟩ h
  simp only [Date.key, toLex_inj, Prod.mk.injEq] at h
  obtain ⟨rfl, rfl, rfl⟩ := h
  rfl

instance : LinearOrder Date := LinearOrder.lift' Date.key Date.key_injective

theorem Date.lt_iff (a b : Date) :
    a < b ↔ a.year < b.year ∨ a.year = b.year ∧ (a.month < b.month ∨ a.month = b.month ∧ a.day < b.day) :=
  show a.key < b.key ↔ _ by simp [Date.key, Prod.Lex.toLex_lt_toLex]

/-- Clock readings in order: by date, then hour, minute, second and microsecond. -/
def DateTime.key (d : DateTime) : Date ×ₗ Nat ×ₗ Nat ×ₗ Nat ×ₗ Nat :=
  toLex (d.date, toLex (d.hour, toLex (d.minute, toLex (d.second, d.micro))))

theorem DateTime.key_injective : Function.Injective DateTime.key := by
  rintro ⟨date, h, m, s, u⟩ ⟨date', h', m', s', u'⟩ hkey
  simp only [DateTime.key, toLex_inj, Prod.mk.injEq] at hkey
  obtain ⟨rfl, rfl, rfl, rfl, rfl⟩ := hkey
  rfl

instance : LinearOrder DateTime := LinearOrder.lift' DateTime.key DateTime.key_injective

/-! ## Months -/

/-- The days from 1970-01-01 to the first day of the month of index
`12 * year + month`, counted from the March-based year that holds it. -/
def monthFirstDay (index : Int) : Int :=
  marchYearStart ((index - 3) / 12) + monthStart ((index - 3) % 12) - 719468

/-- A March-based year has 366 days when the calendar year it ends in is a leap
year, else 365. -/
theorem marchYearStart_add_one (Y : Int) :
    marchYearStart (Y + 1) = marchYearStart Y + if isLeapYear (Y + 1) then 366 else 365 := by
  unfold marchYearStart
  split
  · rename_i hleap
    rw [isLeapYear_iff] at hleap
    omega
  · rename_i hleap
    rw [isLeapYear_iff] at hleap
    omega

/-- A month index counted from March gives the month from March of its calendar
month. -/
theorem monthIndex_emod_eq (year : Int) {month : Nat} (hm : 1 ≤ month ∧ month ≤ 12) :
    (12 * year + month - 3) % 12 = monthFromMarch month := by
  unfold monthFromMarch
  split <;> omega

/-- The day count of a date is that of the first of its month plus the days
before it in the month. -/
theorem daysFromCivil_eq_monthFirstDay (year : Int) {month : Nat} (day : Nat)
    (hm : 1 ≤ month ∧ month ≤ 12) :
    daysFromCivil year month day = monthFirstDay (12 * year + month) + day - 1 := by
  -- the March-based year of the date
  have hY : (12 * year + month - 3) / 12 = if month ≤ 2 then year - 1 else year := by
    split <;> omega
  rw [daysFromCivil_eq, monthFirstDay, hY, monthIndex_emod_eq year hm]
  generalize (if month ≤ 2 then year - 1 else year) = Y
  have hera := @marchYearStart_eq (Y / 400) (Y - Y / 400 * 400) ⟨by omega, by omega⟩
  rw [show 400 * (Y / 400) + (Y - Y / 400 * 400) = Y by omega] at hera
  omega

/-- The first days of consecutive months lie a month's length apart; the month
from March `11`, February, has the leap day of the year it ends. -/
theorem monthFirstDay_add_one (index : Int) :
    monthFirstDay (index + 1) =
      monthFirstDay index + monthLength (isLeapYear ((index - 3) / 12 + 1)) ((index - 3) % 12) := by
  unfold monthFirstDay
  by_cases hfeb : (index - 3) % 12 = 11
  · -- February ends the March-based year: the next month starts the next one
    rw [hfeb, show (index + 1 - 3) / 12 = (index - 3) / 12 + 1 by omega,
      show (index + 1 - 3) % 12 = 0 by omega, marchYearStart_add_one]
    simp only [monthLength, monthStart, if_true]
    split <;> omega
  · rw [show (index + 1 - 3) / 12 = (index - 3) / 12 by omega,
      show (index + 1 - 3) % 12 = (index - 3) % 12 + 1 by omega]
    simp only [monthLength, hfeb, if_false]
    omega

theorem monthLength_pos (leap : Bool) (mp : Int) : 0 < monthLength leap mp := by
  unfold monthLength monthStart
  split
  · split <;> omega
  · omega

theorem monthFirstDay_strictMono : StrictMono monthFirstDay :=
  strictMono_int_of_lt_succ fun index => by
    rw [monthFirstDay_add_one]
    have := monthLength_pos (isLeapYear ((index - 3) / 12 + 1)) ((index - 3) % 12)
    omega

/-- A month of a calendar year has the length `daysInMonth` gives it. -/
theorem monthFirstDay_add_daysInMonth (year : Int) {month : Nat} (hm : 1 ≤ month ∧ month ≤ 12) :
    monthFirstDay (12 * year + month + 1) = monthFirstDay (12 * year + month) + daysInMonth year month := by
  have hbounds : 0 ≤ monthFromMarch month ∧ monthFromMarch month ≤ 11 := by
    unfold monthFromMarch
    split <;> omega
  have hlen := daysInMonth_calendarMonth year hbounds
  rw [calendarMonth_monthFromMarch hm] at hlen
  rw [monthFirstDay_add_one, monthIndex_emod_eq year hm, hlen]
  -- only February depends on the year, and it ends the calendar year it is in
  by_cases hfeb : monthFromMarch month = 11
  · have h2 : month = 2 := by unfold monthFromMarch at hfeb; split at hfeb <;> omega
    subst h2
    rw [show (12 * year + ((2 : Nat) : Int) - 3) / 12 + 1 = year by omega]
  · simp only [monthLength, hfeb, if_false]

/-- The day count of a valid date lies in its month. -/
theorem daysFromCivil_mem_month {d : Date} (hd : d.Valid) :
    monthFirstDay (12 * d.year + d.month) ≤ daysFromCivil d.year d.month d.day ∧
      daysFromCivil d.year d.month d.day < monthFirstDay (12 * d.year + d.month + 1) := by
  obtain ⟨hm1, hm12, hd1, hdn⟩ := hd
  rw [daysFromCivil_eq_monthFirstDay _ _ ⟨hm1, hm12⟩, monthFirstDay_add_daysInMonth _ ⟨hm1, hm12⟩]
  omega

/-- Day counts grow with valid dates. -/
theorem daysFromCivil_lt_of_lt {a b : Date} (ha : a.Valid) (hb : b.Valid) (h : a < b) :
    daysFromCivil a.year a.month a.day < daysFromCivil b.year b.month b.day := by
  have hma := daysFromCivil_mem_month ha
  have hmb := daysFromCivil_mem_month hb
  obtain ⟨ha1, ha12, -⟩ := ha
  obtain ⟨hb1, hb12, -⟩ := hb
  -- a later date is in a later month, or later in the same month
  have hmonth : 12 * a.year + a.month < 12 * b.year + b.month ∨
      12 * a.year + a.month = 12 * b.year + b.month ∧ a.day < b.day := by
    rw [Date.lt_iff] at h
    omega
  rcases hmonth with hlt | ⟨heq, hday⟩
  · have hfirst := monthFirstDay_strictMono.monotone (show 12 * a.year + a.month + 1 ≤ 12 * b.year + b.month by omega)
    omega
  · rw [daysFromCivil_eq_monthFirstDay _ _ ⟨ha1, ha12⟩, daysFromCivil_eq_monthFirstDay _ _ ⟨hb1, hb12⟩, heq]
    omega

/-- Later days have later dates. -/
theorem civilFromDays_strictMono : StrictMono civilFromDays := by
  intro m n hmn
  rcases lt_trichotomy (civilFromDays m) (civilFromDays n) with hlt | heq | hgt
  · exact hlt
  · have := congrArg (fun d => daysFromCivil d.year d.month d.day) heq
    simp only [daysFromCivil_civilFromDays] at this
    omega
  · have := daysFromCivil_lt_of_lt (civilFromDays_valid n) (civilFromDays_valid m) hgt
    rw [daysFromCivil_civilFromDays, daysFromCivil_civilFromDays] at this
    omega

/-! ## Clock readings -/

/-- Later instants have later clock readings. -/
theorem DateTime.ofMicros_strictMono : StrictMono DateTime.ofMicros := by
  intro m n hmn
  show (DateTime.ofMicros m).key < (DateTime.ofMicros n).key
  have hday : m / 86400000000 ≤ n / 86400000000 := Int.ediv_le_ediv (by decide) hmn.le
  rcases hday.lt_or_eq with hlt | heq
  · -- a later day
    exact Prod.Lex.toLex_lt_toLex.mpr (.inl (civilFromDays_strictMono hlt))
  · -- the same day, and a later time of it
    simp only [DateTime.key, DateTime.ofMicros, Prod.Lex.toLex_lt_toLex, heq, true_and, lt_irrefl,
      false_or]
    omega

/-! ## Timestamps -/

namespace Timestamp

theorem compare_def (a b : Timestamp) : compare a b = compare a.micros b.micros := rfl

theorem beq_iff (a b : Timestamp) : (a == b) = true ↔ a.micros = b.micros :=
  show (a.micros == b.micros) = true ↔ _ from beq_iff_eq

theorem lt_iff (a b : Timestamp) : a < b ↔ a.micros < b.micros := Int.compare_eq_lt

theorem le_iff (a b : Timestamp) : a ≤ b ↔ a.micros ≤ b.micros := Int.isLE_compare

instance : Std.TransCmp (α := Timestamp) compare := inferInstanceAs (Std.TransCmp (compareOn micros))

instance : Std.LawfulBEqCmp (α := Timestamp) compare where
  compare_eq_iff_beq {a b} := by rw [compare_def, Int.compare_eq_eq, beq_iff]

instance : Std.LawfulLTCmp (α := Timestamp) compare where
  eq_lt_iff_lt := Iff.rfl

instance : Std.LawfulLECmp (α := Timestamp) compare where
  isLE_iff_le := Iff.rfl

/-- Timestamps compare as their clock readings do. -/
theorem compare_eq_compare_dateTime (a b : Timestamp) : compare a b = compare a.dateTime b.dateTime := by
  rw [compare_def, ← cmp_eq_compare, ← cmp_eq_compare]
  exact (DateTime.ofMicros_strictMono.cmp_map_eq a.micros b.micros).symm

/-- Equality, order and hashing of timestamps follow their clock readings alone.
`==` holds exactly when the comparison is equal, which is exactly when the
clock readings are; one timestamp is before, or not after, another exactly when
its reading is; `<` and `≤` are the strict and weak parts of the comparison,
which is a lawful total preorder whose equivalence is `==`; a timestamp
compares with every other as any timestamp `==` to it does, whatever its unit
and wall-clock flag; and `==` timestamps hash alike. -/
theorem chronological (a b : Timestamp) :
    ((a == b) = true ↔ compare a b = .eq) ∧
      (compare a b = .eq ↔ a.dateTime = b.dateTime) ∧
      (a < b ↔ a.dateTime < b.dateTime) ∧
      (a ≤ b ↔ a.dateTime ≤ b.dateTime) ∧
      (a < b ↔ compare a b = .lt) ∧
      (a ≤ b ↔ compare a b ≠ .gt) ∧
      Std.TransCmp (α := Timestamp) compare ∧
      (a ≤ b → b ≤ a → (a == b) = true) ∧
      ((a == b) = true → ∀ c, compare a c = compare b c) ∧
      ((a == b) = true → hash a = hash b) := by
  refine ⟨Std.LawfulBEqCmp.compare_eq_iff_beq.symm, ?_, ?_, ?_, Iff.rfl, Ordering.isLE_iff_ne_gt,
    inferInstance, ?_, ?_, ?_⟩
  · rw [compare_eq_compare_dateTime, compare_eq_iff_eq]
  · rw [lt_iff]
    exact DateTime.ofMicros_strictMono.lt_iff_lt.symm
  · rw [le_iff]
    exact DateTime.ofMicros_strictMono.le_iff_le.symm
  · intro hab hba
    rw [le_iff] at hab hba
    rw [beq_iff]
    omega
  · intro hab c
    exact Std.TransCmp.congr_left (Std.LawfulBEqCmp.compare_eq_iff_beq.mpr hab)
  · intro hab
    rw [beq_iff] at hab
    show hash a.micros = hash b.micros
    rw [hab]

/-- One second after the epoch, counted in seconds in UTC or in milliseconds on
the wall clock, is one instant. -/
example : ((⟨.seconds, 1, false, by decide⟩ : Timestamp) == ⟨.millis, 1000, true, by decide⟩) = true ∧
    compare (⟨.micros, 999999, false, by decide⟩ : Timestamp) ⟨.seconds, 1, false, by decide⟩ = .lt := by
  decide

end Timestamp

end Timeline.Time
