import Mathlib
import Timeline.Time.Normalize
import Timeline.Proofs.InstantRange
import Timeline.Number.Read
/-!
# Epoch counts

Four encodings count time from an epoch: POSIX seconds and Java milliseconds
from 1970, WebKit microseconds from 1601 and Cocoa microseconds from 2001.
`RawTime.normalize` turns each into a timestamp that is not local. This module
gives each encoding's result in closed form, so that the values it accepts are
an explicit interval and every rejection has its error.

* The range. A timestamp exists exactly when the calendar computes its reading,
  and the module `InstantRange` derives from that chain of checks the instants
  it accepts: between -262143-01-01T00:00:00 and 262142-12-31T23:59:59.999999,
  in microseconds `-8334601228800 * 10^6` and `8210266876799 * 10^6 + 999999`
  (`make?_isSome_iff_bounds`, `stamp_eq`).
* The sign. A negative count is refused before anything else unless the hints
  allow it (`checkSign_bind`). WebKit counts are tested before their shift to
  1970, so a WebKit time before 1970 is accepted; Cocoa counts after their shift
  from 2001, once the shifted count is known to fit in 64 bits.
* The shifts. A WebKit count moved back past 64 bits is out of range, and so
  out of the interval too; a 64-bit Cocoa count can only overflow upwards.
* Each encoding: `normalize_epochSeconds`, `normalize_epochMillis`,
  `normalize_webkitMicros`, `normalize_cocoaMicros`; `normalize_epoch_exact`
  puts them together.
-/

namespace Timeline.Time

/-- A timestamp is built exactly for the instants between the two ends of the
representable range, in microseconds. -/
theorem make?_isSome_iff_bounds (resolution : Resolution) (value : Int) (isLocal : Bool) :
    (Timestamp.make? resolution value isLocal).isSome ↔
      -8334601228800 * 1000000 ≤ value * resolution.microsPerUnit ∧
        value * resolution.microsPerUnit ≤ 8210266876799 * 1000000 + 999999 := by
  rw [Timestamp.make?_isSome_iff]
  simp only [Representable, minMicros, maxMicros, minSeconds, maxSeconds]

/-- A timestamp is built exactly when its instant is representable. -/
theorem stamp_eq (resolution : Resolution) (value : Int) (isLocal : Bool) :
    stamp resolution value isLocal =
      if h : Representable (value * resolution.microsPerUnit) then
        .ok (.ofRepresentable resolution value isLocal h)
      else .error .outOfRange := by
  unfold stamp
  rw [Timestamp.make?_eq]
  split_ifs <;> rfl

/-- The sign check refuses a negative count, unless the hints allow one, and
otherwise lets the rest run. -/
theorem checkSign_bind {α : Type} (hints : TimeHints) (value : Int) (rest : Except TimeError α) :
    (do checkSign hints value; rest) =
      if value < 0 ∧ hints.allowNegativeEpoch = false then .error (.negativeEpoch value) else rest := by
  unfold checkSign
  by_cases h : value < 0 ∧ hints.allowNegativeEpoch = false
  · rw [if_pos (by simpa using h), if_pos h]
    rfl
  · rw [if_neg (by simpa using h), if_neg h]
    rfl

variable (hints : TimeHints)

/-- POSIX seconds keep their count and unit. -/
theorem normalize_epochSeconds (v : Int) :
    (RawTime.epochSeconds v).normalize hints =
      if v < 0 ∧ hints.allowNegativeEpoch = false then .error (.negativeEpoch v)
      else if h : Representable (v * 1000000) then .ok (.ofRepresentable .seconds v false h)
      else .error .outOfRange := by
  rw [RawTime.normalize, checkSign_bind, stamp_eq]
  rfl

/-- Java milliseconds keep their count and unit. -/
theorem normalize_epochMillis (v : Int) :
    (RawTime.epochMillis v).normalize hints =
      if v < 0 ∧ hints.allowNegativeEpoch = false then .error (.negativeEpoch v)
      else if h : Representable (v * 1000) then .ok (.ofRepresentable .millis v false h)
      else .error .outOfRange := by
  rw [RawTime.normalize, checkSign_bind, stamp_eq]
  rfl

/-- WebKit microseconds move back to 1970. The sign is that of the count
before the move; a count moved back past 64 bits is out of range, and it lies
below the interval anyway. -/
theorem normalize_webkitMicros (v : Int) :
    (RawTime.webkitMicros v).normalize hints =
      if v < 0 ∧ hints.allowNegativeEpoch = false then .error (.negativeEpoch v)
      else if h : Representable (v - 11644473600 * 1000000) then
        .ok (.ofRepresentable .micros (v - 11644473600 * 1000000) false
          (by simpa [Resolution.microsPerUnit] using h))
      else .error .outOfRange := by
  rw [RawTime.normalize, checkSign_bind]
  dsimp only
  have hshift : v - webkitEpochShift * 1000000 = v - 11644473600 * 1000000 := rfl
  by_cases hsign : v < 0 ∧ hints.allowNegativeEpoch = false
  · rw [if_pos hsign, if_pos hsign]
  rw [if_neg hsign, if_neg hsign, hshift]
  by_cases hover : v - 11644473600 * 1000000 < -9223372036854775808
  · have hrep : ¬Representable (v - 11644473600 * 1000000) := by
      simp only [Representable, minMicros, minSeconds]
      omega
    rw [if_pos hover, dif_neg hrep]
    rfl
  · rw [if_neg hover]
    show stamp .micros (v - 11644473600 * 1000000) false = _
    rw [stamp_eq]
    -- a count in microseconds is its own instant
    by_cases h : Representable (v - 11644473600 * 1000000)
    · rw [dif_pos (by simpa [Resolution.microsPerUnit] using h), dif_pos h]
    · rw [dif_neg (by simpa [Resolution.microsPerUnit] using h), dif_neg h]

/-- Cocoa microseconds, a 64-bit count, move forward from 2001: a shifted count
past 64 bits is out of range before its sign is looked at. -/
theorem normalize_cocoaMicros {v : Int} (hv : Number.int64Min ≤ v) :
    (RawTime.cocoaMicros v).normalize hints =
      if ¬(Number.int64Min ≤ v + 978307200 * 1000000 ∧ v + 978307200 * 1000000 ≤ Number.int64Max) then
        .error .outOfRange
      else if v + 978307200 * 1000000 < 0 ∧ hints.allowNegativeEpoch = false then
        .error (.negativeEpoch (v + 978307200 * 1000000))
      else if h : Representable (v + 978307200 * 1000000) then
        .ok (.ofRepresentable .micros (v + 978307200 * 1000000) false
          (by simpa [Resolution.microsPerUnit] using h))
      else .error .outOfRange := by
  -- from a 64-bit count, the shift can only overflow upwards
  have hlow : Number.int64Min ≤ v + 978307200 * 1000000 := by
    simp only [Number.int64Min] at hv ⊢
    omega
  have hp : v + cocoaEpochShift * 1000000 = v + 978307200 * 1000000 := rfl
  rw [RawTime.normalize]
  by_cases hover : v + 978307200 * 1000000 > 9223372036854775807
  · rw [if_pos (hp ▸ hover), if_pos (by simp only [Number.int64Max]; omega)]
    rfl
  · rw [if_neg (hp ▸ hover), if_neg (by simp only [Number.int64Max]; omega), hp, checkSign_bind, stamp_eq]
    by_cases h : Representable (v + 978307200 * 1000000)
    · rw [dif_pos (by simpa [Resolution.microsPerUnit] using h), dif_pos h]
    · rw [dif_neg (by simpa [Resolution.microsPerUnit] using h), dif_neg h]

/-- Epoch counts normalize to exactly the representable instants, with exact
shifts and no wrap-around. A timestamp exists exactly when its instant lies in
the representable interval, which the calendar's checks give. POSIX seconds and Java milliseconds keep their
count, refused when negative unless allowed. WebKit microseconds are refused
when negative unless allowed, before their shift to 1970, and otherwise move
back by 11644473600 seconds, out of range when that leaves 64 bits. A 64-bit Cocoa count moves forward by 978307200
seconds; a shifted count past 64 bits is out of range, a negative one is
refused unless allowed. Every accepted count gives a timestamp that is not
local, and every other count whose sign passes is out of range. -/
theorem normalize_epoch_exact (hints : TimeHints) :
    (∀ resolution value isLocal, (Timestamp.make? resolution value isLocal).isSome ↔
      -8334601228800 * 1000000 ≤ value * resolution.microsPerUnit ∧
        value * resolution.microsPerUnit ≤ 8210266876799 * 1000000 + 999999) ∧
    (∀ resolution value isLocal, stamp resolution value isLocal =
      if h : Representable (value * resolution.microsPerUnit) then
        .ok (.ofRepresentable resolution value isLocal h)
      else .error .outOfRange) ∧
    (∀ v, (RawTime.epochSeconds v).normalize hints =
      if v < 0 ∧ hints.allowNegativeEpoch = false then .error (.negativeEpoch v)
      else if h : Representable (v * 1000000) then .ok (.ofRepresentable .seconds v false h)
      else .error .outOfRange) ∧
    (∀ v, (RawTime.epochMillis v).normalize hints =
      if v < 0 ∧ hints.allowNegativeEpoch = false then .error (.negativeEpoch v)
      else if h : Representable (v * 1000) then .ok (.ofRepresentable .millis v false h)
      else .error .outOfRange) ∧
    (∀ v, (RawTime.webkitMicros v).normalize hints =
      if v < 0 ∧ hints.allowNegativeEpoch = false then .error (.negativeEpoch v)
      else if h : Representable (v - 11644473600 * 1000000) then
        .ok (.ofRepresentable .micros (v - 11644473600 * 1000000) false
          (by simpa [Resolution.microsPerUnit] using h))
      else .error .outOfRange) ∧
    (∀ v, Number.int64Min ≤ v → (RawTime.cocoaMicros v).normalize hints =
      if ¬(Number.int64Min ≤ v + 978307200 * 1000000 ∧ v + 978307200 * 1000000 ≤ Number.int64Max) then
        .error .outOfRange
      else if v + 978307200 * 1000000 < 0 ∧ hints.allowNegativeEpoch = false then
        .error (.negativeEpoch (v + 978307200 * 1000000))
      else if h : Representable (v + 978307200 * 1000000) then
        .ok (.ofRepresentable .micros (v + 978307200 * 1000000) false
          (by simpa [Resolution.microsPerUnit] using h))
      else .error .outOfRange) :=
  ⟨make?_isSome_iff_bounds, stamp_eq, normalize_epochSeconds hints, normalize_epochMillis hints,
    normalize_webkitMicros hints, fun _ hv => normalize_cocoaMicros hints hv⟩

/-- The largest Cocoa count is out of range: shifted to 1970 it no longer fits
in 64 bits. -/
theorem cocoaMicros_int64Max_out_of_range :
    Number.int64Min ≤ Number.int64Max ∧
      (RawTime.cocoaMicros Number.int64Max).normalize {} = .error .outOfRange := by
  refine ⟨by decide, ?_⟩
  rw [(normalize_epoch_exact {}).2.2.2.2.2 _ (by decide),
    if_pos (by simp only [Number.int64Max, Number.int64Min]; omega)]

end Timeline.Time
