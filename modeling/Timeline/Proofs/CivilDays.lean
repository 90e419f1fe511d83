import Timeline.Time.Calendar
/-!
# Days and civil dates

`civilFromDays` reads a count of days from 1970-01-01 as a proleptic Gregorian
date and `daysFromCivil` counts the days of a date. This module proves that
`civilFromDays` only gives valid dates and that the two are inverse: on every
day count one way, on every valid date the other.

Both functions work in eras of 400 years (146097 days) whose years start on
1 March, so that a leap day is the last day of its year. A day of an era is
split into a year of the era and a day of that year, and a day of a year into
a month from March and a day of that month.

* Leap years. `isLeapYear_iff` states the rule as arithmetic, and
  `isLeapYear_add_mul_400` shows that it repeats every era.
* Years of an era. `yearStart` and `yearLength` place the March-based year
  `y` of an era; `eraYear` is the year that `civilFromDays` finds for a day of
  the era. An era day is written in centuries, four-year cycles and days
  (`EraParts`): the first three centuries lose the leap day of their last
  cycle, the last century keeps it. From that decomposition, `eraYear_spec`
  shows that `eraYear` finds the year a day falls in, and
  `eraYear_yearStart_add` that it finds the year back from any of its days.
* Months of a year. `monthStart` and `monthLength` place the months from
  March; `marchMonth_spec` and `marchMonth_monthStart_add` do for months what
  the two lemmas above do for years. `calendarMonth` and `monthFromMarch`
  convert between months from March and calendar months, whose lengths are
  those of `daysInMonth` (`daysInMonth_calendarMonth`).
* Dates. `CivilParts` holds an era, a year of it, a month and a day, and
  `CivilParts.date` their date. `CivilParts.civilFromDays_days` and
  `CivilParts.daysFromCivil_date` compute both functions on it, every day count
  has parts (`CivilParts.exists_days`) and every valid date is the date of its
  parts (`CivilParts.exists_date`).

The main statements are `civilFromDays_valid`, `daysFromCivil_civilFromDays`
and `civilFromDays_daysFromCivil`. `civilFromDays_year_spec` places a day in its
calendar year, and `civilFromDays_year_bounds_iff` gives the days of the years
from -262143 to 262142.
-/

namespace Timeline.Time

/-! ## Leap years -/

theorem isLeapYear_iff (y : Int) :
    isLeapYear y = true ↔ (y % 4 = 0 ∧ y % 100 ≠ 0) ∨ y % 400 = 0 := by
  simp [isLeapYear]

/-- The leap years repeat every 400 years. -/
theorem isLeapYear_add_mul_400 (y k : Int) : isLeapYear (y + 400 * k) = isLeapYear y := by
  have h4 : (y + 400 * k) % 4 = y % 4 := by omega
  have h100 : (y + 400 * k) % 100 = y % 100 := by omega
  have h400 : (y + 400 * k) % 400 = y % 400 := by omega
  simp only [isLeapYear, h4, h100, h400]

/-! ## Years of an era -/

/-- The days of an era before its March-based year `y`. -/
def yearStart (y : Int) : Int := 365 * y + y / 4 - y / 100

/-- The days of the March-based year `y` of an era: one more when the February
that ends it has a leap day. -/
def yearLength (y : Int) : Int := if isLeapYear (y + 1) then 366 else 365

/-- The March-based year of an era in which the era's day `doe` falls, as
`civilFromDays` computes it. -/
def eraYear (doe : Int) : Int := (doe - doe / 1460 + doe / 36524 - doe / 146096) / 365

/-- A year of an era has 365 days, or 366 when it is the last of a four-year
cycle and ends before a leap February. -/
theorem yearLength_cases (y : Int) :
    yearLength y = 365 ∨
      (yearLength y = 366 ∧ (y + 1) % 4 = 0 ∧ ((y + 1) % 100 ≠ 0 ∨ (y + 1) % 400 = 0)) := by
  unfold yearLength
  split
  · rename_i hleap
    rw [isLeapYear_iff] at hleap
    omega
  · exact Or.inl rfl

/-- The year of a four-year cycle in which its day `f` falls, the leap day
counting to the last year. -/
def cycleYear (f : Int) : Int := (f - f / 1460) / 365

theorem cycleYear_of_le {f : Int} (h : 0 ≤ f ∧ f ≤ 1459) : cycleYear f = f / 365 := by
  unfold cycleYear
  omega

theorem cycleYear_leapDay : cycleYear 1460 = 3 := by decide

/-- A day of an era as `C` whole centuries, `Q` whole four-year cycles of the
century and `f` days into the cycle. A cycle has 1461 days, but the last one of
each of the first three centuries lacks its leap day. -/
structure EraParts (C Q f : Int) : Prop where
  century : 0 ≤ C ∧ C ≤ 3
  cycle : 0 ≤ Q ∧ Q ≤ 24
  day : 0 ≤ f ∧ f ≤ 1460
  last : 1461 * Q + f ≤ 36523 ∨ (C = 3 ∧ 1461 * Q + f = 36524)

namespace EraParts

variable {C Q f : Int}

/-- The two ways a cycle's day can lie: before the leap day, the year is the
day's quotient by 365; on it, the year is 3 and the century is the last one
when the cycle is. -/
theorem cases (h : EraParts C Q f) :
    (f ≤ 1459 ∧ cycleYear f = f / 365) ∨ (f = 1460 ∧ cycleYear f = 3 ∧ (Q = 24 → C = 3)) := by
  have := h.day; have := h.last
  by_cases hf : f = 1460
  · subst hf
    exact Or.inr ⟨rfl, cycleYear_leapDay, by omega⟩
  · exact Or.inl ⟨by omega, cycleYear_of_le (by omega)⟩

theorem cycleYear_bounds (h : EraParts C Q f) : 0 ≤ cycleYear f ∧ cycleYear f ≤ 3 := by
  have := h.day
  rcases h.cases with ⟨_, hR⟩ | ⟨_, hR, _⟩ <;> rw [hR] <;> omega

theorem centuries (h : EraParts C Q f) :
    (36524 * C + 1461 * Q + f) / 36524 - (36524 * C + 1461 * Q + f) / 146096 = C := by
  have := h.century; have := h.cycle; have := h.day; have hl := h.last
  have hr : 0 ≤ 1461 * Q + f := by omega
  rw [Int.add_assoc]
  generalize 1461 * Q + f = r at hl hr ⊢
  omega

theorem div_1460 (h : EraParts C Q f) :
    (36524 * C + 1461 * Q + f) / 1460 = 25 * C + Q + (24 * C + Q + f) / 1460 := by
  have := h.century; have := h.cycle; have := h.day
  omega

/-- The day that the first division of `eraYear` carries over only matters on
the leap day of a cycle. -/
theorem carry (h : EraParts C Q f) : (f - (24 * C + Q + f) / 1460) / 365 = cycleYear f := by
  have := h.century; have := h.cycle; have := h.day
  have hd : ((24 * C + Q + f) / 1460 = 0 ∧ f ≤ 1459) ∨
      ((24 * C + Q + f) / 1460 = 1 ∧ 1364 ≤ f) := by omega
  generalize (24 * C + Q + f) / 1460 = d at hd
  rcases h.cases with ⟨_, hR⟩ | ⟨rfl, hR, _⟩ <;> rw [hR] <;> omega

theorem eraYear_eq (h : EraParts C Q f) :
    eraYear (36524 * C + 1461 * Q + f) = 100 * C + 4 * Q + cycleYear f := by
  have hsum : 36524 * C + 1461 * Q + f - (36524 * C + 1461 * Q + f) / 1460 +
      (36524 * C + 1461 * Q + f) / 36524 - (36524 * C + 1461 * Q + f) / 146096 =
      (f - (24 * C + Q + f) / 1460) + 365 * (100 * C + 4 * Q) := by
    have := h.centuries
    rw [h.div_1460]
    omega
  rw [eraYear, hsum, Int.add_mul_ediv_left _ _ (by decide), h.carry, Int.add_comm]

theorem yearStart_eq (h : EraParts C Q f) :
    yearStart (100 * C + 4 * Q + cycleYear f) = 36524 * C + 1461 * Q + 365 * cycleYear f := by
  have := h.cycleYear_bounds; have := h.cycle; have := h.century
  generalize cycleYear f = R at *
  unfold yearStart
  omega

/-- A day of the cycle lies in its year: day 365 of a year only exists as the
leap day, and that year ends before a leap February. -/
theorem dayOfYear_bounds (h : EraParts C Q f) :
    0 ≤ f - 365 * cycleYear f ∧
      f - 365 * cycleYear f < yearLength (100 * C + 4 * Q + cycleYear f) := by
  have := h.century; have := h.cycle; have := h.day
  unfold yearLength
  rcases h.cases with ⟨hf, hR⟩ | ⟨rfl, hR, hlast⟩
  · rw [hR]
    split <;> omega
  · rw [hR, if_pos]
    · omega
    · rw [isLeapYear_iff]
      omega

/-- The parts of a day of an era. -/
theorem ofDay {doe : Int} (h0 : 0 ≤ doe) (h1 : doe < 146097) :
    EraParts (doe / 36524 - doe / 146096) ((doe - 36524 * (doe / 36524 - doe / 146096)) / 1461)
      ((doe - 36524 * (doe / 36524 - doe / 146096)) % 1461) where
  century := by omega
  cycle := by omega
  day := by omega
  last := by omega

/-- The parts of the day `doy` of year `y` of an era. -/
theorem ofYear {y doy : Int} (hy : 0 ≤ y ∧ y ≤ 399) (hd : 0 ≤ doy ∧ doy < yearLength y) :
    EraParts (y / 100) (y % 100 / 4) (365 * (y % 4) + doy) where
  century := by omega
  cycle := by omega
  day := by have := yearLength_cases y; omega
  last := by have := yearLength_cases y; omega

end EraParts

/-- An era's day falls in the year `eraYear` finds for it. -/
theorem eraYear_spec {doe : Int} (h0 : 0 ≤ doe) (h1 : doe < 146097) :
    0 ≤ eraYear doe ∧ eraYear doe ≤ 399 ∧ yearStart (eraYear doe) ≤ doe ∧
      doe < yearStart (eraYear doe) + yearLength (eraYear doe) := by
  have hp := EraParts.ofDay h0 h1
  have hdoe : doe = 36524 * (doe / 36524 - doe / 146096) +
      1461 * ((doe - 36524 * (doe / 36524 - doe / 146096)) / 1461) +
      (doe - 36524 * (doe / 36524 - doe / 146096)) % 1461 := by omega
  generalize doe / 36524 - doe / 146096 = C at hp hdoe
  generalize (doe - 36524 * C) / 1461 = Q at hp hdoe
  generalize (doe - 36524 * C) % 1461 = f at hp hdoe
  subst hdoe
  have := hp.cycleYear_bounds; have := hp.cycle; have := hp.century; have := hp.dayOfYear_bounds
  rw [hp.eraYear_eq, hp.yearStart_eq]
  generalize yearLength (100 * C + 4 * Q + cycleYear f) = L at *
  generalize cycleYear f = R at *
  omega

/-- `eraYear` finds a year back from any of its days. -/
theorem eraYear_yearStart_add {y doy : Int} (hy : 0 ≤ y ∧ y ≤ 399)
    (hd : 0 ≤ doy ∧ doy < yearLength y) : eraYear (yearStart y + doy) = y := by
  have hp := EraParts.ofYear hy hd
  have hx : yearStart y + doy = 36524 * (y / 100) + 1461 * (y % 100 / 4) + (365 * (y % 4) + doy) := by
    unfold yearStart
    omega
  have hR : cycleYear (365 * (y % 4) + doy) = y % 4 := by
    have := hp.day; have := yearLength_cases y
    rcases hp.cases with ⟨_, hR⟩ | ⟨_, hR, _⟩ <;> rw [hR] <;> omega
  rw [hx, hp.eraYear_eq, hR]
  omega

/-- The years of an era fill it. -/
theorem yearStart_add_yearLength_le {y : Int} (hy : 0 ≤ y ∧ y ≤ 399) :
    yearStart y + yearLength y ≤ 146097 := by
  unfold yearStart yearLength
  split
  · rename_i hleap
    rw [isLeapYear_iff] at hleap
    omega
  · omega

/-! ## Months of a year -/

/-- The days of a March-based year before its month `mp` (0 for March, 11 for
February). -/
def monthStart (mp : Int) : Int := (153 * mp + 2) / 5

/-- The month from March in which the day `doy` of a March-based year falls, as
`civilFromDays` computes it. -/
def marchMonth (doy : Int) : Int := (5 * doy + 2) / 153

/-- The days of month `mp` from March; February has 29 in a leap year. -/
def monthLength (leap : Bool) (mp : Int) : Int :=
  if mp = 11 then (if leap then 29 else 28) else monthStart (mp + 1) - monthStart mp

/-- A day of a March-based year falls in the month `marchMonth` finds for it. -/
theorem marchMonth_spec {doy : Int} (h0 : 0 ≤ doy) (h1 : doy < 366) :
    0 ≤ marchMonth doy ∧ marchMonth doy ≤ 11 ∧ monthStart (marchMonth doy) ≤ doy ∧
      doy < monthStart (marchMonth doy + 1) := by
  unfold marchMonth monthStart
  omega

/-- `marchMonth` finds a month back from any of its days. -/
theorem marchMonth_monthStart_add {mp k : Int}
    (hk : 0 ≤ k ∧ k < monthStart (mp + 1) - monthStart mp) :
    marchMonth (monthStart mp + k) = mp := by
  unfold marchMonth monthStart at *
  omega

/-- The month from March of a calendar month from 1 to 12. -/
def monthFromMarch (month : Nat) : Int := if month > 2 then (month : Int) - 3 else (month : Int) + 9

/-- The calendar month of a month from March. -/
def calendarMonth (mp : Int) : Nat := (if mp < 10 then mp + 3 else mp - 9).toNat

theorem monthFromMarch_calendarMonth {mp : Int} (h : 0 ≤ mp ∧ mp ≤ 11) :
    monthFromMarch (calendarMonth mp) = mp := by
  unfold monthFromMarch calendarMonth
  split <;> omega

theorem calendarMonth_monthFromMarch {month : Nat} (h : 1 ≤ month ∧ month ≤ 12) :
    calendarMonth (monthFromMarch month) = month := by
  unfold monthFromMarch calendarMonth
  split <;> omega

/-- The months from March have the lengths of the calendar months they are, February
taking the leap day of its own year. -/
theorem daysInMonth_le (year : Int) (month : Nat) : daysInMonth year month ≤ 31 := by
  unfold daysInMonth
  split <;> (try split) <;> omega

theorem daysInMonth_calendarMonth (year : Int) {mp : Int} (h : 0 ≤ mp ∧ mp ≤ 11) :
    (daysInMonth year (calendarMonth mp) : Int) = monthLength (isLeapYear year) mp := by
  by_cases hfeb : mp = 11
  · subst hfeb
    cases hl : isLeapYear year <;> simp [daysInMonth, monthLength, calendarMonth, hl]
  · -- the other months have fixed lengths
    have hcases : mp = 0 ∨ mp = 1 ∨ mp = 2 ∨ mp = 3 ∨ mp = 4 ∨ mp = 5 ∨ mp = 6 ∨ mp = 7 ∨
        mp = 8 ∨ mp = 9 ∨ mp = 10 := by omega
    rcases hcases with rfl | rfl | rfl | rfl | rfl | rfl | rfl | rfl | rfl | rfl | rfl <;> rfl

/-! ## Dates -/

/-- `daysFromCivil` in the terms of this module. -/
theorem daysFromCivil_eq (year : Int) (month day : Nat) :
    daysFromCivil year month day =
      146097 * ((if month ≤ 2 then year - 1 else year) / 400) +
        (yearStart ((if month ≤ 2 then year - 1 else year) -
            (if month ≤ 2 then year - 1 else year) / 400 * 400) +
          (monthStart (monthFromMarch month) + ((day : Int) - 1))) - 719468 := by
  simp only [daysFromCivil, yearStart, monthStart, monthFromMarch]
  omega

/-- `civilFromDays` in the terms of this module. -/
theorem civilFromDays_eq (n : Int) :
    civilFromDays n =
      let era := (n + 719468) / 146097
      let doe := n + 719468 - era * 146097
      let y := eraYear doe
      let doy := doe - yearStart y
      let mp := marchMonth doy
      let month := if mp < 10 then mp + 3 else mp - 9
      { year := if month ≤ 2 then y + era * 400 + 1 else y + era * 400
        month := month.toNat
        day := (doy - monthStart mp + 1).toNat } := rfl

/-- A date is valid when its month is from 1 to 12 and its day is a day of that
month. -/
def Date.Valid (d : Date) : Prop :=
  1 ≤ d.month ∧ d.month ≤ 12 ∧ 1 ≤ d.day ∧ d.day ≤ daysInMonth d.year d.month

instance (d : Date) : Decidable d.Valid := inferInstanceAs (Decidable (_ ∧ _))

/-- A date as `civilFromDays` builds it: an era, a March-based year of the era, a
month from March and the days before it in the month. -/
structure CivilParts where
  era : Int
  year : Int
  month : Int
  day : Int
  year_bounds : 0 ≤ year ∧ year ≤ 399
  month_bounds : 0 ≤ month ∧ month ≤ 11
  day_bounds : 0 ≤ day ∧ day < monthLength (isLeapYear (year + 1)) month

namespace CivilParts

/-- The days from 1970-01-01 to the date of some parts (1 March of year 0 is day
-719468). -/
def days (p : CivilParts) : Int :=
  146097 * p.era + (yearStart p.year + (monthStart p.month + p.day)) - 719468

/-- The date of some parts: January and February belong to the next calendar year. -/
def date (p : CivilParts) : Date :=
  { year := 400 * p.era + p.year + (if 10 ≤ p.month then 1 else 0)
    month := calendarMonth p.month
    day := (p.day + 1).toNat }

/-- The day lies within its month. -/
theorem day_lt_next (p : CivilParts) : p.day < monthStart (p.month + 1) - monthStart p.month := by
  have hd := p.day_bounds.2
  unfold monthLength at hd
  split at hd
  · rename_i hfeb
    rw [hfeb]
    unfold monthStart
    split at hd <;> omega
  · exact hd

/-- The day of the year lies within the year. -/
theorem dayOfYear_bounds (p : CivilParts) :
    0 ≤ monthStart p.month + p.day ∧ monthStart p.month + p.day < yearLength p.year := by
  have hm := p.month_bounds; have hd := p.day_bounds
  by_cases hfeb : p.month = 11
  · -- February has the leap day exactly when the year is one day longer
    rw [hfeb] at hd ⊢
    cases hl : isLeapYear (p.year + 1) <;>
      simp only [monthLength, yearLength, monthStart, hl, Bool.false_eq_true, ↓reduceIte] at hd ⊢ <;>
      omega
  · have hlen : monthLength (isLeapYear (p.year + 1)) p.month =
        monthStart (p.month + 1) - monthStart p.month := if_neg hfeb
    have := yearLength_cases p.year
    rw [hlen] at hd
    unfold monthStart at *
    omega

/-- The date of some parts is valid. -/
theorem date_valid (p : CivilParts) : p.date.Valid := by
  have hm := p.month_bounds; have hd := p.day_bounds
  have hlen := daysInMonth_calendarMonth p.date.year hm
  -- a February is in the calendar year after the March-based year
  have hleap : p.month = 11 → isLeapYear p.date.year = isLeapYear (p.year + 1) := by
    intro hfeb
    simp only [date, hfeb, show (10 : Int) ≤ 11 by decide, if_true]
    rw [show 400 * p.era + p.year + 1 = p.year + 1 + 400 * p.era by omega, isLeapYear_add_mul_400]
  have hday : (p.date.day : Int) ≤ monthLength (isLeapYear (p.year + 1)) p.month := by
    simp only [date]
    omega
  have hsame : monthLength (isLeapYear p.date.year) p.month =
      monthLength (isLeapYear (p.year + 1)) p.month := by
    by_cases hfeb : p.month = 11
    · rw [hleap hfeb]
    · simp only [monthLength, hfeb, if_false]
  have hmonth : p.date.month = calendarMonth p.month := rfl
  refine ⟨?_, ?_, ?_, ?_⟩
  · simp only [date, calendarMonth]; split <;> omega
  · simp only [date, calendarMonth]; split <;> omega
  · simp only [date]; omega
  · rw [hmonth]
    omega

/-- `civilFromDays` finds the date of the parts of a day count. -/
theorem civilFromDays_days (p : CivilParts) : civilFromDays p.days = p.date := by
  have hy := p.year_bounds; have hm := p.month_bounds; have hd := p.day_bounds
  have hdoy := p.dayOfYear_bounds
  have hera_le := yearStart_add_yearLength_le hy
  have hstart := (eraYear_spec (show 0 ≤ yearStart p.year by unfold yearStart; omega)
    (by omega)).1
  have hera : (p.days + 719468) / 146097 = p.era := by
    unfold days
    have : 0 ≤ yearStart p.year := by unfold yearStart; omega
    omega
  have hdoe : p.days + 719468 - p.era * 146097 = yearStart p.year + (monthStart p.month + p.day) := by
    unfold days
    omega
  have hyear : eraYear (yearStart p.year + (monthStart p.month + p.day)) = p.year :=
    eraYear_yearStart_add hy hdoy
  have hmonth : marchMonth (monthStart p.month + p.day) = p.month :=
    marchMonth_monthStart_add ⟨hd.1, p.day_lt_next⟩
  have hdoy' : yearStart p.year + (monthStart p.month + p.day) - yearStart p.year =
      monthStart p.month + p.day := by omega
  rw [civilFromDays_eq]
  simp only [hera, hdoe, hyear, hdoy', hmonth]
  simp only [date, calendarMonth, Date.mk.injEq, true_and]
  refine ⟨?_, ?_⟩
  · split <;> split <;> omega
  · congr 1
    omega

/-- `daysFromCivil` counts the days of the date of some parts. -/
theorem daysFromCivil_date (p : CivilParts) :
    daysFromCivil p.date.year p.date.month p.date.day = p.days := by
  have hy := p.year_bounds; have hm := p.month_bounds; have hd := p.day_bounds
  -- the March-based year of the date, and the era it lies in
  have hmarch : (if p.date.month ≤ 2 then p.date.year - 1 else p.date.year) = 400 * p.era + p.year := by
    simp only [date, calendarMonth]
    split <;> split <;> omega
  have hera : (400 * p.era + p.year) / 400 = p.era := by omega
  have hday : ((p.date.day : Int) - 1) = p.day := by simp only [date]; omega
  rw [daysFromCivil_eq, hmarch, hera, show p.date.month = calendarMonth p.month from rfl,
    monthFromMarch_calendarMonth hm, hday, show 400 * p.era + p.year - p.era * 400 = p.year by omega]
  rfl

/-- Every day count has parts. -/
theorem exists_days (n : Int) : ∃ p : CivilParts, p.days = n := by
  -- the era, the day of the era, its year, the day of that year and its month
  obtain ⟨era, doe, hn, hdoe⟩ : ∃ era doe, n + 719468 = 146097 * era + doe ∧ 0 ≤ doe ∧ doe < 146097 :=
    ⟨(n + 719468) / 146097, (n + 719468) % 146097, by omega, by omega, by omega⟩
  obtain ⟨hy0, hy1, hys, hyl⟩ := eraYear_spec hdoe.1 hdoe.2
  have hlen := yearLength_cases (eraYear doe)
  generalize eraYear doe = y at *
  obtain ⟨hm0, hm1, hms, hml⟩ := marchMonth_spec (show 0 ≤ doe - yearStart y by omega) (by omega)
  generalize marchMonth (doe - yearStart y) = mp at *
  refine ⟨⟨era, y, mp, doe - yearStart y - monthStart mp, ⟨hy0, hy1⟩, ⟨hm0, hm1⟩, ?_⟩, ?_⟩
  · -- a February ends with the year
    unfold monthLength
    split
    · rename_i hfeb
      subst hfeb
      unfold yearLength at hyl
      unfold monthStart at *
      split at hyl <;> split <;> simp_all <;> omega
    · omega
  · show 146097 * era + (yearStart y + (monthStart mp + (doe - yearStart y - monthStart mp))) - 719468 = n
    omega

/-- Every valid date is the date of its parts. -/
theorem exists_date {d : Date} (hd : d.Valid) : ∃ p : CivilParts, p.date = d := by
  obtain ⟨year, month, day⟩ := d
  obtain ⟨hm1, hm12, hd1, hdn⟩ : 1 ≤ month ∧ month ≤ 12 ∧ 1 ≤ day ∧ day ≤ daysInMonth year month := hd
  -- the March-based year of the date, split into its era and the year of the era
  obtain ⟨era, y, hmarch, hy⟩ : ∃ era y, (if month ≤ 2 then year - 1 else year) = 400 * era + y ∧
      0 ≤ y ∧ y ≤ 399 :=
    ⟨(if month ≤ 2 then year - 1 else year) / 400,
      (if month ≤ 2 then year - 1 else year) % 400, by omega, by omega, by omega⟩
  have hmp : 0 ≤ monthFromMarch month ∧ monthFromMarch month ≤ 11 := by
    unfold monthFromMarch
    split <;> omega
  have hlen := daysInMonth_calendarMonth year hmp
  rw [calendarMonth_monthFromMarch ⟨hm1, hm12⟩] at hlen
  -- a February is in the calendar year after its March-based year
  have hsame : monthLength (isLeapYear year) (monthFromMarch month) =
      monthLength (isLeapYear (y + 1)) (monthFromMarch month) := by
    by_cases hfeb : monthFromMarch month = 11
    · have h2 : month ≤ 2 := by unfold monthFromMarch at hfeb; split at hfeb <;> omega
      rw [if_pos h2] at hmarch
      rw [show year = y + 1 + 400 * era by omega, isLeapYear_add_mul_400]
    · simp only [monthLength, hfeb, if_false]
  refine ⟨⟨era, y, monthFromMarch month, (day : Int) - 1, ⟨hy.1, hy.2⟩, hmp, ?_⟩, ?_⟩
  · omega
  · have hyear : 400 * era + y + (if 10 ≤ monthFromMarch month then 1 else 0) = year := by
      unfold monthFromMarch
      split at hmarch <;> split <;> split <;> omega
    simp only [date, Date.mk.injEq]
    refine ⟨hyear, calendarMonth_monthFromMarch ⟨hm1, hm12⟩, ?_⟩
    omega

end CivilParts

/-- `civilFromDays` gives valid dates only. -/
theorem civilFromDays_valid (n : Int) : (civilFromDays n).Valid := by
  obtain ⟨p, rfl⟩ := CivilParts.exists_days n
  rw [p.civilFromDays_days]
  exact p.date_valid

/-- `daysFromCivil` counts back the days of every date `civilFromDays` gives. -/
theorem daysFromCivil_civilFromDays (n : Int) :
    daysFromCivil (civilFromDays n).year (civilFromDays n).month (civilFromDays n).day = n := by
  obtain ⟨p, rfl⟩ := CivilParts.exists_days n
  rw [p.civilFromDays_days]
  exact p.daysFromCivil_date

/-- `civilFromDays` reads back every valid date from its day count. -/
theorem civilFromDays_daysFromCivil {d : Date} (hd : d.Valid) :
    civilFromDays (daysFromCivil d.year d.month d.day) = d := by
  obtain ⟨p, rfl⟩ := CivilParts.exists_date hd
  rw [p.daysFromCivil_date]
  exact p.civilFromDays_days





/-! ## The representable years -/

/-- The days from 1 March of year 0 to 1 March of year `Y`, for a year of any sign. -/
def marchYearStart (Y : Int) : Int := 365 * Y + Y / 4 - Y / 100 + Y / 400

theorem marchYearStart_eq {era y : Int} (hy : 0 ≤ y ∧ y ≤ 399) :
    marchYearStart (400 * era + y) = 146097 * era + yearStart y := by
  unfold marchYearStart yearStart
  omega

theorem marchYearStart_mono {a b : Int} (h : a ≤ b) : marchYearStart a ≤ marchYearStart b := by
  unfold marchYearStart
  omega

/-- A March-based year has 365 days at least. -/
theorem marchYearStart_add_365_le {a b : Int} (h : a < b) :
    marchYearStart a + 365 ≤ marchYearStart b := by
  unfold marchYearStart
  omega

/-- A day falls in its calendar year, which starts on 1 January, day 306 of the
March-based year before it. -/
theorem civilFromDays_year_spec (n : Int) :
    marchYearStart ((civilFromDays n).year - 1) + 306 ≤ n + 719468 ∧
      n + 719468 < marchYearStart (civilFromDays n).year + 306 := by
  obtain ⟨p, rfl⟩ := CivilParts.exists_days n
  rw [p.civilFromDays_days]
  have hy := p.year_bounds; have hdoy := p.dayOfYear_bounds
  have hlen := yearLength_cases p.year
  have hdays : p.days + 719468 =
      marchYearStart (400 * p.era + p.year) + (monthStart p.month + p.day) := by
    rw [marchYearStart_eq hy]
    unfold CivilParts.days
    omega
  -- January and February, from month 10 on, start on day 306 of the March-based year
  have hjan : 10 ≤ p.month ↔ 306 ≤ monthStart p.month + p.day := by
    have := p.day_bounds.1; have := p.day_lt_next
    unfold monthStart at *
    omega
  have hprev := marchYearStart_add_365_le (show 400 * p.era + p.year - 1 < 400 * p.era + p.year by omega)
  have hnext := marchYearStart_add_365_le (show 400 * p.era + p.year < 400 * p.era + p.year + 1 by omega)
  simp only [CivilParts.date]
  split <;> simp only [Int.add_sub_cancel, Int.add_zero] <;> omega

/-- The years from -262143 to 262142 hold exactly the days from -96465292 to
95026236, that is from -262143-01-01 to 262142-12-31. -/
theorem civilFromDays_year_bounds_iff (n : Int) :
    (-262143 ≤ (civilFromDays n).year ∧ (civilFromDays n).year ≤ 262142) ↔
      (-96465292 ≤ n ∧ n ≤ 95026236) := by
  have hspec := civilFromDays_year_spec n
  generalize (civilFromDays n).year = y at hspec ⊢
  -- the two 1 Januaries that bound the range
  have e1 : marchYearStart (-262144) = -95746130 := by decide
  have e2 : marchYearStart 262142 = 95745399 := by decide
  have hlo := marchYearStart_mono (a := -262144) (b := y - 1)
  have hlo' := marchYearStart_mono (a := y) (b := -262144)
  have hhi := marchYearStart_mono (a := y) (b := 262142)
  have hhi' := marchYearStart_mono (a := 262142) (b := y - 1)
  omega

end Timeline.Time
