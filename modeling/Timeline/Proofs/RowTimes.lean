import Timeline.Proofs.EventBuilding
import Timeline.Proofs.EpochTimes
import Timeline.Row.Coerce
/-!
# Integer times in database cells

A row artifact reads each cell by the kind of its column (`ColumnKind.coerce`),
and a time that the cell gives is normalized when an attribute reads its field
(`Emission.toEvent`). Between them a cell either gives the attribute a value
(`ColumnKind.Gives`) or makes its row a warning (`ColumnKind.Spoils`): the cell
does not coerce, or its time does not normalize.

* Integer cells of Cocoa seconds pass two 64-bit checks: the product by a
  million when the cell is read, and the shift from 2001 to 1970 when the time
  is normalized. Together with the sign and the representable range they leave
  exactly one interval of counts, and within it the exact shifted count
  (`cocoaTime_integer_gives_iff`); outside it the row is a warning
  (`cocoaTime_integer_spoils`), never a wrapped or saturated count.
* A WebKit cell, an integer or a text that reads as a 64-bit integer, means
  never when it is zero (`webkitTime_gives_unset`), is refused when negative
  (`webkitTime_negative`), and otherwise moves back to 1970 when the result is
  representable (`webkitTime_gives_iff`, `webkitTime_spoils`).
* A null cell gives no field, so an unset attribute, whatever its column
  (`gives_null`).

`row_integer_times_exact` gathers them.
-/

namespace Timeline

open Time

/-! ## Closed forms of the two shifts -/

/-- A Cocoa count that fits in 64 bits normalizes exactly when its count
shifted to 1970 is a representable instant from 1970 on, and then to that
count in microseconds. -/
theorem normalize_cocoaMicros_eq_ok_iff {v : Int} (hv : Number.int64Min ≤ v) (t : Timestamp) :
    (RawTime.cocoaMicros v).normalize {} = .ok t ↔
      (0 ≤ v + 978307200 * 1000000 ∧ v + 978307200 * 1000000 ≤ maxMicros) ∧
      t.resolution = .micros ∧ t.value = v + 978307200 * 1000000 ∧ t.isLocal = false := by
  rw [normalize_cocoaMicros {} hv]
  by_cases hin : 0 ≤ v + 978307200 * 1000000 ∧ v + 978307200 * 1000000 ≤ maxMicros
  · -- inside the interval every check passes
    have hfit : Number.int64Min ≤ v + 978307200 * 1000000 ∧
        v + 978307200 * 1000000 ≤ Number.int64Max := by
      simp only [Number.int64Min, Number.int64Max, maxMicros, maxSeconds] at hin ⊢
      omega
    have hrep : Representable (v + 978307200 * 1000000) :=
      ⟨by simp only [minMicros, minSeconds]; omega, hin.2⟩
    rw [if_neg (not_not.mpr hfit), if_neg (fun h => absurd h.1 (by omega)), dif_pos hrep]
    constructor
    · rintro ⟨⟩
      exact ⟨hin, rfl, rfl, rfl⟩
    · obtain ⟨resolution, value, isLocal, _⟩ := t
      rintro ⟨-, hres, hval, hloc⟩
      simp only at hres hval hloc
      subst hres hval hloc
      rfl
  · -- outside it one of the checks fails
    refine ⟨fun h => ?_, fun h => absurd h.1 hin⟩
    split_ifs at h with hfit hneg hrep
    have hpos : 0 ≤ v + 978307200 * 1000000 := by
      by_contra hlt
      exact hneg ⟨by omega, rfl⟩
    exact absurd ⟨hpos, hrep.2⟩ hin

/-- A WebKit count that is not negative normalizes exactly when its count moved
back to 1970 is representable, and then to that count in microseconds. -/
theorem normalize_webkitMicros_eq_ok_iff {v : Int} (hv : 0 ≤ v) (t : Timestamp) :
    (RawTime.webkitMicros v).normalize {} = .ok t ↔
      Representable (v - 11644473600 * 1000000) ∧
      t.resolution = .micros ∧ t.value = v - 11644473600 * 1000000 ∧ t.isLocal = false := by
  rw [normalize_webkitMicros, if_neg (by omega)]
  by_cases hrep : Representable (v - 11644473600 * 1000000)
  · rw [dif_pos hrep]
    constructor
    · rintro ⟨⟩
      exact ⟨hrep, rfl, rfl, rfl⟩
    · obtain ⟨resolution, value, isLocal, _⟩ := t
      rintro ⟨-, hres, hval, hloc⟩
      simp only at hres hval hloc
      subst hres hval hloc
      rfl
  · rw [dif_neg hrep]
    exact ⟨nofun, fun h => absurd h.1 hrep⟩

/-- Every representable count of microseconds is the count of a timestamp that
is not local. -/
theorem exists_micros_timestamp {x : Int} (h : Representable x) :
    ∃ t : Timestamp, t.resolution = .micros ∧ t.value = x ∧ t.isLocal = false :=
  ⟨.ofRepresentable .micros x false (by simpa [Resolution.microsPerUnit] using h), rfl, rfl, rfl⟩

/-! ## What a cell gives -/

namespace ColumnKind

/-- A cell gives an attribute that reads its column's field this value: the
cell coerces, and its field, or its absence, becomes the attribute. -/
def Gives (kind : ColumnKind) (hints : TimeHints) (cell : Scalar) (v : AttributeValue) : Prop :=
  ∃ field, kind.coerce cell = .ok field ∧ AttributeOf hints field v

/-- A cell makes its row a warning: it does not coerce, or it gives a time that
does not normalize. -/
def Spoils (kind : ColumnKind) (hints : TimeHints) (cell : Scalar) : Prop :=
  (∃ reason, kind.coerce cell = .error reason) ∨
    ∃ raw e, kind.coerce cell = .ok (some (.time raw)) ∧ raw.normalize hints = .error e

/-- A cell that gives a time gives what the time normalizes to. -/
theorem gives_of_coerce_eq_time {kind : ColumnKind} {hints : TimeHints} {cell : Scalar}
    {raw : RawTime} (h : kind.coerce cell = .ok (some (.time raw))) (v : AttributeValue) :
    kind.Gives hints cell v ↔ ∃ t, raw.normalize hints = .ok t ∧ v = .timestamp t := by
  unfold Gives
  rw [h]
  constructor
  · rintro ⟨field, hfield, hv⟩
    cases hfield
    cases hv with
    | time ht => exact ⟨_, ht, rfl⟩
  · rintro ⟨t, ht, rfl⟩
    exact ⟨_, rfl, .time ht⟩

/-- A null cell gives no field, so an unset attribute, whatever its column. -/
theorem gives_null (kind : ColumnKind) (hints : TimeHints) : kind.Gives hints .null .unset :=
  ⟨none, rfl, .absent⟩

/-! ## Cocoa seconds in an integer cell -/

/-- An integer cell of Cocoa seconds is read as microseconds when the product
fits in 64 bits. -/
theorem coerce_cocoaTime_integer (s : Int) :
    ColumnKind.cocoaTime.coerce (.integer s) =
      if Number.int64Min ≤ s * 1000000 ∧ s * 1000000 ≤ Number.int64Max then
        .ok (some (.time (.cocoaMicros (s * 1000000))))
      else .error ("seconds out of range: " ++ Text.decimal s) := by
  unfold coerce Scalar.cocoaMicros
  dsimp only
  split_ifs <;> rfl

/-- Every count of that interval passes the product check. -/
theorem mul_fits_of_cocoa_range {s : Int}
    (h : 0 ≤ (s + 978307200) * 1000000 ∧ (s + 978307200) * 1000000 ≤ maxMicros) :
    Number.int64Min ≤ s * 1000000 ∧ s * 1000000 ≤ Number.int64Max := by
  simp only [Number.int64Min, Number.int64Max, maxMicros, maxSeconds] at h ⊢
  omega

/-- What an integer cell of Cocoa seconds gives: the timestamp of its count
shifted to 1970, in microseconds, exactly when that count is a representable
instant from 1970 on, and nothing else. -/
theorem cocoaTime_integer_gives_iff (s : Int) (v : AttributeValue) :
    ColumnKind.cocoaTime.Gives {} (.integer s) v ↔
      (0 ≤ (s + 978307200) * 1000000 ∧ (s + 978307200) * 1000000 ≤ maxMicros) ∧
      ∃ t, v = .timestamp t ∧ t.resolution = .micros ∧ t.value = (s + 978307200) * 1000000 ∧
        t.isLocal = false := by
  have hshift : (s + 978307200) * 1000000 = s * 1000000 + 978307200 * 1000000 := by ring
  by_cases hmul : Number.int64Min ≤ s * 1000000 ∧ s * 1000000 ≤ Number.int64Max
  · have hcoerce := coerce_cocoaTime_integer s
    rw [if_pos hmul] at hcoerce
    rw [gives_of_coerce_eq_time hcoerce, hshift]
    constructor
    · rintro ⟨t, ht, rfl⟩
      obtain ⟨hin, hres, hval, hloc⟩ := (normalize_cocoaMicros_eq_ok_iff hmul.1 t).mp ht
      exact ⟨hin, t, rfl, hres, hval, hloc⟩
    · rintro ⟨hin, t, rfl, hres, hval, hloc⟩
      exact ⟨t, (normalize_cocoaMicros_eq_ok_iff hmul.1 t).mpr ⟨hin, hres, hval, hloc⟩, rfl⟩
  · -- a product past 64 bits is refused, and lies outside the interval
    have hcoerce := coerce_cocoaTime_integer s
    rw [if_neg hmul] at hcoerce
    unfold Gives
    rw [hcoerce]
    simp only [reduceCtorEq, false_and, exists_false, false_iff, not_and]
    exact fun hin => absurd (mul_fits_of_cocoa_range hin) hmul

/-- An integer cell of Cocoa seconds outside that interval makes its row a
warning: the product does not fit in 64 bits, or the shifted count is refused. -/
theorem cocoaTime_integer_spoils {s : Int}
    (h : ¬(0 ≤ (s + 978307200) * 1000000 ∧ (s + 978307200) * 1000000 ≤ maxMicros)) :
    ColumnKind.cocoaTime.Spoils {} (.integer s) := by
  have hcoerce := coerce_cocoaTime_integer s
  by_cases hmul : Number.int64Min ≤ s * 1000000 ∧ s * 1000000 ≤ Number.int64Max
  · rw [if_pos hmul] at hcoerce
    cases hn : (RawTime.cocoaMicros (s * 1000000)).normalize {} with
    | ok t =>
      have hshift : (s + 978307200) * 1000000 = s * 1000000 + 978307200 * 1000000 := by ring
      rw [hshift] at h
      exact absurd ((normalize_cocoaMicros_eq_ok_iff hmul.1 t).mp hn).1 h
    | error e => exact .inr ⟨_, e, hcoerce, hn⟩
  · rw [if_neg hmul] at hcoerce
    exact .inl ⟨_, hcoerce⟩

/-! ## WebKit microseconds in an integer or a text cell -/

/-- An integer cell, or a text cell whose trimmed text reads as a 64-bit
integer, is read as that integer. -/
theorem toInteger_of_reads {cell : Scalar} {s : Int}
    (h : cell = .integer s ∨ ∃ text, cell = .text text ∧ Number.readInt64? (Text.trim text) = some s) :
    cell ≠ .null ∧ cell.toInteger = .ok s := by
  rcases h with rfl | ⟨text, rfl, hread⟩
  · exact ⟨nofun, rfl⟩
  · refine ⟨nofun, ?_⟩
    unfold Scalar.toInteger
    dsimp only
    rw [hread]

/-- A WebKit cell read as zero gives no field; any other integer gives its time. -/
theorem coerce_webkitTime {cell : Scalar} {s : Int} (hnull : cell ≠ .null)
    (h : cell.toInteger = .ok s) :
    ColumnKind.webkitTime.coerce cell = .ok (if s = 0 then none else some (.time (.webkitMicros s))) := by
  unfold coerce
  cases cell
  case null => exact absurd rfl hnull
  -- every other cell is read as an integer
  all_goals
    dsimp only
    rw [h]
    by_cases hs : s = 0
    · subst hs
      rfl
    · rw [if_neg hs]
      simp only [bind, Except.bind]
      rfl

section WebKit

variable {cell : Scalar} {s : Int}
  (hcell : cell = .integer s ∨ ∃ text, cell = .text text ∧ Number.readInt64? (Text.trim text) = some s)
include hcell

/-- Zero means never: an unset attribute. -/
theorem webkitTime_gives_unset (hs : s = 0) : ColumnKind.webkitTime.Gives {} cell .unset := by
  obtain ⟨hnull, h⟩ := toInteger_of_reads hcell
  refine ⟨none, ?_, .absent⟩
  rw [coerce_webkitTime hnull h, if_pos hs]

/-- A negative count is refused as a negative epoch. -/
theorem webkitTime_negative (hs : s < 0) :
    ∃ raw, ColumnKind.webkitTime.coerce cell = .ok (some (.time raw)) ∧
      raw.normalize {} = .error (.negativeEpoch s) := by
  obtain ⟨hnull, h⟩ := toInteger_of_reads hcell
  refine ⟨.webkitMicros s, ?_, ?_⟩
  · rw [coerce_webkitTime hnull h, if_neg (by omega)]
  · rw [normalize_webkitMicros, if_pos ⟨hs, rfl⟩]

/-- A positive count gives the timestamp of its count moved back to 1970,
exactly when that is representable, and nothing else. -/
theorem webkitTime_gives_iff (hs : 0 < s) (v : AttributeValue) :
    ColumnKind.webkitTime.Gives {} cell v ↔
      Representable (s - 11644473600 * 1000000) ∧
      ∃ t, v = .timestamp t ∧ t.resolution = .micros ∧ t.value = s - 11644473600 * 1000000 ∧
        t.isLocal = false := by
  obtain ⟨hnull, h⟩ := toInteger_of_reads hcell
  have hcoerce := coerce_webkitTime hnull h
  rw [if_neg (by omega)] at hcoerce
  rw [gives_of_coerce_eq_time hcoerce]
  constructor
  · rintro ⟨t, ht, rfl⟩
    obtain ⟨hrep, hres, hval, hloc⟩ := (normalize_webkitMicros_eq_ok_iff (by omega) t).mp ht
    exact ⟨hrep, t, rfl, hres, hval, hloc⟩
  · rintro ⟨hrep, t, rfl, hres, hval, hloc⟩
    exact ⟨t, (normalize_webkitMicros_eq_ok_iff (by omega) t).mpr ⟨hrep, hres, hval, hloc⟩, rfl⟩

/-- A positive count whose move back to 1970 is not representable makes its row
a warning. -/
theorem webkitTime_spoils (hs : 0 < s) (hrep : ¬ Representable (s - 11644473600 * 1000000)) :
    ColumnKind.webkitTime.Spoils {} cell := by
  obtain ⟨hnull, h⟩ := toInteger_of_reads hcell
  have hcoerce := coerce_webkitTime hnull h
  rw [if_neg (by omega)] at hcoerce
  refine .inr ⟨_, .outOfRange, hcoerce, ?_⟩
  rw [normalize_webkitMicros, if_neg (by omega), dif_neg hrep]

end WebKit

end ColumnKind

/-- Integer row times convert exactly and never wrap. An integer cell of Cocoa
seconds gives the timestamp of its count shifted to 1970, in microseconds,
exactly when that count lies between 1970 and the last representable instant,
never any other value, and otherwise makes its row a warning. A WebKit cell, an
integer or a text that reads as one, gives an unset attribute for zero, is
refused as a negative epoch when negative, and otherwise gives the timestamp of
its count moved back to 1970 exactly when that is representable, never any
other value, and else makes its row a warning. A null cell gives an unset
attribute whatever its column. -/
theorem row_integer_times_exact (s : Int) :
    ((∃ t, ColumnKind.cocoaTime.Gives {} (.integer s) (.timestamp t) ∧
        t.resolution = .micros ∧ t.value = (s + 978307200) * 1000000) ↔
      0 ≤ (s + 978307200) * 1000000 ∧
        (s + 978307200) * 1000000 ≤ 8210266876799 * 1000000 + 999999) ∧
    (∀ v, ColumnKind.cocoaTime.Gives {} (.integer s) v →
      ∃ t, v = .timestamp t ∧ t.resolution = .micros ∧ t.value = (s + 978307200) * 1000000) ∧
    (¬(0 ≤ (s + 978307200) * 1000000 ∧
        (s + 978307200) * 1000000 ≤ 8210266876799 * 1000000 + 999999) →
      ColumnKind.cocoaTime.Spoils {} (.integer s)) ∧
    (∀ cell, (cell = .integer s ∨
        ∃ text, cell = .text text ∧ Number.readInt64? (Text.trim text) = some s) →
      (s = 0 → ColumnKind.webkitTime.Gives {} cell .unset) ∧
      (s < 0 → ∃ raw, ColumnKind.webkitTime.coerce cell = .ok (some (.time raw)) ∧
        raw.normalize {} = .error (.negativeEpoch s)) ∧
      (0 < s →
        ((∃ t, ColumnKind.webkitTime.Gives {} cell (.timestamp t) ∧ t.resolution = .micros ∧
            t.value = s - 11644473600 * 1000000) ↔ Representable (s - 11644473600 * 1000000)) ∧
        (∀ v, ColumnKind.webkitTime.Gives {} cell v →
          ∃ t, v = .timestamp t ∧ t.resolution = .micros ∧ t.value = s - 11644473600 * 1000000) ∧
        (¬ Representable (s - 11644473600 * 1000000) → ColumnKind.webkitTime.Spoils {} cell))) ∧
    ∀ kind hints, ColumnKind.Gives kind hints .null .unset := by
  refine ⟨⟨?_, fun hin => ?_⟩, fun v hv => ?_, ColumnKind.cocoaTime_integer_spoils,
    fun cell hcell => ⟨ColumnKind.webkitTime_gives_unset hcell, ColumnKind.webkitTime_negative hcell,
      fun hs => ⟨⟨?_, fun hrep => ?_⟩, fun v hv => ?_, ColumnKind.webkitTime_spoils hcell hs⟩⟩,
    ColumnKind.gives_null⟩
  · rintro ⟨t, hg, -, -⟩
    exact ((ColumnKind.cocoaTime_integer_gives_iff s _).mp hg).1
  · have hrep : Representable ((s + 978307200) * 1000000) :=
      ⟨by simp only [minMicros, minSeconds]; omega, hin.2⟩
    obtain ⟨t, hres, hval, hloc⟩ := exists_micros_timestamp hrep
    exact ⟨t, (ColumnKind.cocoaTime_integer_gives_iff s _).mpr ⟨hin, t, rfl, hres, hval, hloc⟩, hres, hval⟩
  · obtain ⟨-, t, rfl, hres, hval, -⟩ := (ColumnKind.cocoaTime_integer_gives_iff s v).mp hv
    exact ⟨t, rfl, hres, hval⟩
  · rintro ⟨t, hg, -, -⟩
    exact ((ColumnKind.webkitTime_gives_iff hcell hs _).mp hg).1
  · obtain ⟨t, hres, hval, hloc⟩ := exists_micros_timestamp hrep
    exact ⟨t, (ColumnKind.webkitTime_gives_iff hcell hs _).mpr ⟨hrep, t, rfl, hres, hval, hloc⟩,
      hres, hval⟩
  · obtain ⟨-, t, rfl, hres, hval, -⟩ := (ColumnKind.webkitTime_gives_iff hcell hs v).mp hv
    exact ⟨t, rfl, hres, hval⟩

/-- A WebKit count from January 2022, read from a text cell with blanks around
it, gives its instant; read as Cocoa seconds from an integer cell, the same
number lies far past the last representable instant and makes its row a
warning. -/
theorem webkit_text_cell_of_2022 :
    ¬(0 ≤ ((13287412645000000 : Int) + 978307200) * 1000000 ∧
        ((13287412645000000 : Int) + 978307200) * 1000000 ≤ 8210266876799 * 1000000 + 999999) ∧
    ColumnKind.cocoaTime.Spoils {} (.integer 13287412645000000) ∧
    Number.readInt64? (Text.trim " 13287412645000000 ") = some 13287412645000000 ∧
    Representable ((13287412645000000 : Int) - 11644473600 * 1000000) ∧
    ∃ t, ColumnKind.webkitTime.Gives {} (.text " 13287412645000000 ") (.timestamp t) ∧
      t.resolution = .micros ∧ t.value = 13287412645000000 - 11644473600 * 1000000 := by
  have hout : ¬(0 ≤ ((13287412645000000 : Int) + 978307200) * 1000000 ∧
      ((13287412645000000 : Int) + 978307200) * 1000000 ≤ 8210266876799 * 1000000 + 999999) := by
    decide
  have hread : Number.readInt64? (Text.trim " 13287412645000000 ") = some 13287412645000000 := by
    decide
  have hrep : Representable ((13287412645000000 : Int) - 11644473600 * 1000000) := by decide
  have h := row_integer_times_exact 13287412645000000
  have hweb := (h.2.2.2.1 (.text " 13287412645000000 ") (.inr ⟨_, rfl, hread⟩)).2.2 (by decide)
  exact ⟨hout, h.2.2.1 hout, hread, hrep, hweb.1.mpr hrep⟩

end Timeline
