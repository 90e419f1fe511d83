import Mathlib
import Timeline.Proofs.TimeTuples
import Timeline.Proofs.DecimalText
/-!
# Reading back the ISO text of a timestamp

A timestamp is written `Y-MM-DDTHH:MM:SS`, then three fraction digits for a
millisecond timestamp or six for a microsecond one, then `Z` unless it is a
wall-clock reading. The year has four digits at least, with zeros in front to
make four, and a sign exactly when it lies outside 0 to 9999.

`IsoFields.read` reads that form and nothing else: it is the form written as a
reader. Its fields, taken as a calendar tuple (the offset 0 for a text in UTC),
normalize back to the same instant and locality.

* Digits. `padded` writes the decimal digits of a number with zeros in front;
  `digitRun_padded` and `ofDigitChars_padded` read them back, and
  `readYear_yearText` reads a year with its sign.
* The text. `read_iso` reads the fields of a timestamp back from its text,
  each up to the separator that follows it.
* Normalizing. `Timestamp.readable_isoTuple` shows that the fields form a
  readable tuple whose reading has the timestamp's count.

The main statement is `Timestamp.iso_reads_back`.
-/

namespace Timeline.Time

open Text

/-! ## The reader -/

/-- The fields an ISO 8601 text of a timestamp spells out. -/
structure IsoFields where
  year : Int
  month : Nat
  day : Nat
  hour : Nat
  minute : Nat
  second : Nat
  fraction : Option Fraction
  utc : Bool
  deriving DecidableEq, Repr

/-- The ASCII digits at the start of a text, and what follows them. -/
def digitRun (cs : List Char) : List Char × List Char :=
  (cs.takeWhile Char.isDigit, cs.dropWhile Char.isDigit)

/-- A field of exactly `width` digits. -/
def readField (width : Nat) (cs : List Char) : Option (Nat × List Char) :=
  if (digitRun cs).1.length = width then some (Nat.ofDigitChars 10 (digitRun cs).1 0, (digitRun cs).2)
  else none

/-- A sign at the start of a text: `some true` for a minus. -/
def signOf : List Char → Option Bool × List Char
  | '+' :: r => (some false, r)
  | '-' :: r => (some true, r)
  | r => (none, r)

/-- A year: an optional sign and four digits at least, a zero in front only to
make four, and a sign exactly when the year lies outside 0 to 9999. -/
def readYear (cs : List Char) : Option (Int × List Char) :=
  let ds := (digitRun (signOf cs).2).1
  let magnitude : Int := Nat.ofDigitChars 10 ds 0
  let year := if (signOf cs).1 = some true then -magnitude else magnitude
  if 4 ≤ ds.length ∧ (ds.length = 4 ∨ ds.head? ≠ some '0') ∧
      ((signOf cs).1.isSome ↔ ¬(0 ≤ year ∧ year ≤ 9999)) then
    some (year, (digitRun (signOf cs).2).2)
  else none

/-- One given character. -/
def expectChar (c : Char) : List Char → Option (List Char)
  | d :: rest => if d = c then some rest else none
  | [] => none

/-- The fraction of a second: nothing, or a point and three or six digits. -/
def readFraction : List Char → Option (Option Fraction × List Char)
  | '.' :: cs =>
    if (digitRun cs).1.length = 3 ∨ (digitRun cs).1.length = 6 then
      some (some ⟨Nat.ofDigitChars 10 (digitRun cs).1 0, (digitRun cs).1.length⟩, (digitRun cs).2)
    else none
  | cs => some (none, cs)

/-- The end of the text: nothing, or a `Z` for a time in UTC. -/
def readZone : List Char → Option Bool
  | [] => some false
  | ['Z'] => some true
  | _ => none

/-- Reads `Y-MM-DDTHH:MM:SS[.fff|.ffffff][Z]`. -/
def IsoFields.read (s : String) : Option IsoFields := do
  let (year, r) ← readYear s.toList
  let r ← expectChar '-' r
  let (month, r) ← readField 2 r
  let r ← expectChar '-' r
  let (day, r) ← readField 2 r
  let r ← expectChar 'T' r
  let (hour, r) ← readField 2 r
  let r ← expectChar ':' r
  let (minute, r) ← readField 2 r
  let r ← expectChar ':' r
  let (second, r) ← readField 2 r
  let (fraction, r) ← readFraction r
  let utc ← readZone r
  pure ⟨year, month, day, hour, minute, second, fraction, utc⟩

/-- The calendar tuple of the fields, at offset 0 when the text is in UTC. -/
def IsoFields.toTuple (f : IsoFields) : TimeTuple :=
  { year := f.year, month := .number f.month, day := f.day, hour := f.hour, minute := f.minute,
    second := f.second, fraction := f.fraction, utcOffset := if f.utc then some 0 else none }

/-- The number of fraction digits in the text of a timestamp of a resolution. -/
def Resolution.isoDigits : Resolution → Option Nat
  | .seconds => none
  | .millis => some 3
  | .micros => some 6

/-! ## Digits -/

/-- A character that is no digit, or none at all. -/
def NoDigitFirst (cs : List Char) : Prop := ∀ c ∈ cs.head?, c.isDigit = false

/-- The run of digits of a padded number ends where the number does. -/
theorem digitRun_padded (w n : Nat) {rest : List Char} (hrest : NoDigitFirst rest) :
    digitRun ((padded w n).toList ++ rest) = ((padded w n).toList, rest) := by
  have hall : ∀ c ∈ (padded w n).toList, c.isDigit = true := fun c hc => isDigit_of_mem_padded hc
  have htake : rest.takeWhile Char.isDigit = [] := by
    cases rest with
    | nil => rfl
    | cons c more => simp [hrest c rfl]
  have hdrop : rest.dropWhile Char.isDigit = rest := by
    cases rest with
    | nil => rfl
    | cons c more => simp [hrest c rfl]
  simp [digitRun, List.takeWhile_append_of_pos hall, List.dropWhile_append_of_pos hall, htake, hdrop]

theorem readField_padded {w n : Nat} {rest : List Char} (hw : 0 < w) (h : n < 10 ^ w)
    (hrest : NoDigitFirst rest) : readField w ((padded w n).toList ++ rest) = some (n, rest) := by
  simp [readField, digitRun_padded w n hrest, length_padded hw h, ofDigitChars_padded]

/-- The digits of a year field: four at least, a zero in front only to make four. -/
theorem yearDigits_padded (n : Nat) :
    4 ≤ (padded 4 n).toList.length ∧
      ((padded 4 n).toList.length = 4 ∨ (padded 4 n).toList.head? ≠ some '0') := by
  by_cases hn : n < 10 ^ 4
  · have := length_padded (by decide) hn
    exact ⟨by omega, Or.inl this⟩
  · have hlen : ¬(Nat.toDigits 10 n).length ≤ 4 := fun h =>
      hn ((Nat.length_toDigits_le_iff (by decide) (by decide)).mp h)
    have hpad : (padded 4 n).toList = Nat.toDigits 10 n := by
      rw [toList_padded, show 4 - (Nat.toDigits 10 n).length = 0 by omega]
      rfl
    rw [hpad]
    exact ⟨by omega, Or.inr (head?_toDigits_ne_zero (by omega))⟩

theorem signOf_of_isDigit {c : Char} (hc : c.isDigit = true) (r : List Char) :
    signOf (c :: r) = (none, c :: r) := by
  have hplus : c ≠ '+' := by rintro rfl; cases hc
  have hminus : c ≠ '-' := by rintro rfl; cases hc
  simp [signOf, hplus, hminus]

/-- What `readYear` accepts: a sign, a run of digits of the right shape, and a sign
exactly when the year lies outside 0 to 9999. -/
theorem readYear_eq_some {cs ds rest : List Char} {sign : Option Bool} {year : Int}
    (hsign : signOf cs = (sign, ds ++ rest)) (hrun : digitRun (ds ++ rest) = (ds, rest))
    (hlen : 4 ≤ ds.length ∧ (ds.length = 4 ∨ ds.head? ≠ some '0'))
    (hyear : year = if sign = some true then -(Nat.ofDigitChars 10 ds 0 : Int)
      else (Nat.ofDigitChars 10 ds 0 : Int))
    (hrange : sign.isSome ↔ ¬(0 ≤ year ∧ year ≤ 9999)) :
    readYear cs = some (year, rest) := by
  unfold readYear
  simp only [hsign, hrun, ← hyear]
  rw [if_pos ⟨hlen.1, hlen.2, hrange⟩]

theorem readYear_yearText (y : Int) {rest : List Char} (hrest : NoDigitFirst rest) :
    readYear ((yearText y).toList ++ rest) = some (y, rest) := by
  unfold yearText
  split
  · -- four digits, no sign
    rename_i hy
    have hlen := length_padded (w := 4) (n := y.toNat) (by decide) (by omega)
    obtain ⟨c, more, hcs⟩ : ∃ c more, (padded 4 y.toNat).toList = c :: more := by
      cases h : (padded 4 y.toNat).toList with
      | nil => rw [h] at hlen; cases hlen
      | cons c more => exact ⟨c, more, rfl⟩
    have hc : c.isDigit = true := isDigit_of_mem_padded (by rw [hcs]; exact List.mem_cons_self)
    have hsign : signOf ((padded 4 y.toNat).toList ++ rest) = (none, (padded 4 y.toNat).toList ++ rest) := by
      rw [hcs, List.cons_append, signOf_of_isDigit hc]
    refine readYear_eq_some hsign (digitRun_padded 4 y.toNat hrest) ⟨by omega, Or.inl hlen⟩ ?_ ?_
    · rw [ofDigitChars_padded]
      simp only [reduceCtorEq, ↓reduceIte]
      omega
    · simp only [Option.isSome_none, Bool.false_eq_true, false_iff, Decidable.not_not]
      exact hy
  · split
    · -- a minus sign
      rename_i hy hneg
      obtain ⟨hlen, hhead⟩ := yearDigits_padded y.natAbs
      have hsign : signOf (("-" ++ padded 4 y.natAbs).toList ++ rest) =
          (some true, (padded 4 y.natAbs).toList ++ rest) := by
        rw [String.toList_append, List.append_assoc, show "-".toList = ['-'] from rfl,
          List.singleton_append]
        rfl
      refine readYear_eq_some hsign (digitRun_padded 4 y.natAbs hrest) ⟨hlen, hhead⟩ ?_ ?_
      · rw [ofDigitChars_padded, if_pos rfl]
        omega
      · simp only [Option.isSome_some, true_iff]
        omega
    · -- a plus sign
      rename_i hy hneg
      obtain ⟨hlen, hhead⟩ := yearDigits_padded y.toNat
      have hsign : signOf (("+" ++ padded 4 y.toNat).toList ++ rest) =
          (some false, (padded 4 y.toNat).toList ++ rest) := by
        rw [String.toList_append, List.append_assoc, show "+".toList = ['+'] from rfl,
          List.singleton_append]
        rfl
      refine readYear_eq_some hsign (digitRun_padded 4 y.toNat hrest) ⟨hlen, hhead⟩ ?_ ?_
      · rw [ofDigitChars_padded]
        simp only [Option.some.injEq, Bool.false_eq_true, ↓reduceIte]
        omega
      · simp only [Option.isSome_some, true_iff]
        omega

/-! ## The text of a timestamp -/

theorem noDigitFirst_cons {c : Char} (rest : List Char) :
    NoDigitFirst (c :: rest) ↔ c.isDigit = false := by
  constructor
  · intro h
    exact h c rfl
  · intro hc d hd
    cases hd
    exact hc

theorem noDigitFirst_nil : NoDigitFirst [] := by
  intro d hd
  cases hd

@[simp] theorem expectChar_cons (c : Char) (rest : List Char) : expectChar c (c :: rest) = some rest := by
  simp [expectChar]

theorem readFraction_padded {w n : Nat} {rest : List Char} (hw : w = 3 ∨ w = 6) (h : n < 10 ^ w)
    (hrest : NoDigitFirst rest) :
    readFraction ('.' :: ((padded w n).toList ++ rest)) = some (some ⟨n, w⟩, rest) := by
  have hlen := length_padded (by omega) h
  simp [readFraction, digitRun_padded w n hrest, hlen, ofDigitChars_padded, hw]

/-- The zone of a text: nothing for a wall-clock reading, `Z` for UTC. -/
theorem readZone_zone (isLocal : Bool) :
    readFraction (if isLocal = true then "" else "Z").toList =
        some (none, (if isLocal = true then "" else "Z").toList) ∧
      NoDigitFirst (if isLocal = true then "" else "Z").toList ∧
      readZone (if isLocal = true then "" else "Z").toList = some !isLocal := by
  cases isLocal
  · exact ⟨rfl, (noDigitFirst_cons []).mpr rfl, rfl⟩
  · exact ⟨rfl, noDigitFirst_nil, rfl⟩

/-- The fraction of a second that the text of a timestamp spells. -/
def Timestamp.isoFraction (t : Timestamp) : Option Fraction :=
  match t.resolution with
  | .seconds => none
  | .millis => some ⟨t.dateTime.micro / 1000, 3⟩
  | .micros => some ⟨t.dateTime.micro, 6⟩

/-- The fields the text of a timestamp spells. -/
def Timestamp.isoFields (t : Timestamp) : IsoFields :=
  ⟨t.dateTime.date.year, t.dateTime.date.month, t.dateTime.date.day, t.dateTime.hour,
    t.dateTime.minute, t.dateTime.second, t.isoFraction, !t.isLocal⟩

/-- The text of a timestamp reads as its date, its time of day, its fraction of a
second and whether it is in UTC. -/
theorem read_iso (t : Timestamp) : IsoFields.read t.iso = some t.isoFields := by
  obtain ⟨⟨-, hm12, -, hdn⟩, hh, hmin, hs, hu⟩ : t.dateTime.Valid := DateTime.ofMicros_valid t.micros
  have hdim := daysInMonth_le t.dateTime.date.year t.dateTime.date.month
  have hm : t.dateTime.date.month < 10 ^ 2 := by omega
  have hd : t.dateTime.date.day < 10 ^ 2 := by omega
  have hh' : t.dateTime.hour < 10 ^ 2 := by omega
  have hmin' : t.dateTime.minute < 10 ^ 2 := by omega
  have hs' : t.dateTime.second < 10 ^ 2 := by omega
  have hmilli : t.dateTime.micro / 1000 < 10 ^ 3 := by omega
  have hmicro : t.dateTime.micro < 10 ^ 6 := by omega
  have sep : ∀ c : Char, c.isDigit = false → ∀ rest, NoDigitFirst (c :: rest) :=
    fun c hc rest => (noDigitFirst_cons rest).mpr hc
  have hdash : "-".toList = ['-'] := rfl
  have hT : "T".toList = ['T'] := rfl
  have hcolon : ":".toList = [':'] := rfl
  have hpoint : ".".toList = ['.'] := rfl
  obtain ⟨hnone, hzone, hread⟩ := readZone_zone t.isLocal
  simp only [IsoFields.read, Timestamp.iso, DateTime.render, Timestamp.isoFields,
    Timestamp.isoFraction, String.toList_append, List.append_assoc, hdash, hT, hcolon,
    List.cons_append, List.nil_append]
  -- the date and the time of day up to the seconds: each field is read up to the
  -- separator that follows it. The binds are opened one at a time from the
  -- outside, as `simp` would rewrite under all of them at once.
  dsimp only [Option.bind_eq_bind]
  rw [readYear_yearText _ (sep '-' rfl _), Option.bind_some, expectChar_cons, Option.bind_some,
    readField_padded (by decide) hm (sep '-' rfl _), Option.bind_some, expectChar_cons, Option.bind_some,
    readField_padded (by decide) hd (sep 'T' rfl _), Option.bind_some, expectChar_cons, Option.bind_some,
    readField_padded (by decide) hh' (sep ':' rfl _), Option.bind_some, expectChar_cons, Option.bind_some,
    readField_padded (by decide) hmin' (sep ':' rfl _), Option.bind_some, expectChar_cons, Option.bind_some]
  dsimp only
  -- the seconds are followed by the fraction, if any, then by the zone
  cases t.resolution with
  | seconds =>
    simp only [String.toList_empty, List.nil_append, readField_padded (by decide) hs' hzone,
      Option.bind_some, hnone, hread, Option.pure_def]
  | millis =>
    simp only [String.toList_append, hpoint, List.cons_append, List.nil_append,
      readField_padded (by decide) hs' (sep '.' rfl _), Option.bind_some,
      readFraction_padded (Or.inl rfl) hmilli hzone, hread, Option.pure_def]
  | micros =>
    simp only [String.toList_append, hpoint, List.cons_append, List.nil_append,
      readField_padded (by decide) hs' (sep '.' rfl _), Option.bind_some,
      readFraction_padded (Or.inr rfl) hmicro hzone, hread, Option.pure_def]

/-! ## Normalizing the fields -/

namespace Timestamp

/-- The microseconds within the second of a timestamp's reading. -/
theorem dateTime_micro (t : Timestamp) : (t.dateTime.micro : Int) = t.micros % 1000000 := by
  simp only [dateTime, DateTime.ofMicros]
  omega

/-- A timestamp's fraction, read as a fraction of a second, is the microseconds of
its reading: a timestamp to the second or the millisecond has none to drop. -/
theorem fractionMicros_isoTuple (t : Timestamp) :
    t.isoFields.toTuple.fractionMicros = .ok t.dateTime.micro := by
  have hmicro := t.dateTime_micro
  have hlt : t.dateTime.micro < 1000000 := (DateTime.ofMicros_valid t.micros).2.2.2.2
  cases hres : t.resolution with
  | seconds =>
    have hval : t.micros = t.value * 1000000 := by simp [micros, hres, Resolution.microsPerUnit]
    simp only [isoFields, IsoFields.toTuple, TimeTuple.fractionMicros, isoFraction, hres,
      Except.ok.injEq]
    omega
  | millis =>
    have hval : t.micros = t.value * 1000 := by simp [micros, hres, Resolution.microsPerUnit]
    have hpow : Nat.pow 10 3 = 1000 := rfl
    simp only [isoFields, IsoFields.toTuple, TimeTuple.fractionMicros, isoFraction, hres,
      Fraction.toMicros, Nat.reduceSub, hpow]
    rw [if_neg (by omega), if_pos (by decide)]
    simp only [Except.ok.injEq]
    omega
  | micros =>
    have hpow : Nat.pow 10 6 = 1000000 := rfl
    simp only [isoFields, IsoFields.toTuple, TimeTuple.fractionMicros, isoFraction, hres,
      Fraction.toMicros, Nat.reduceSub, hpow]
    rw [if_neg (by omega), if_pos (by decide)]
    simp

/-- The year of a representable instant is in the representable range. -/
theorem yearRepresentable_dateTime (t : Timestamp) : yearRepresentable t.dateTime.date.year = true := by
  rw [yearRepresentable_iff]
  exact (civilFromDays_year_bounds_iff _).2 ((representable_iff_days t.micros).1 t.representable)

/-- The fields of a timestamp's text make a readable tuple whose reading is the
timestamp's own. -/
theorem readable_isoTuple (t : Timestamp) (months : MonthTable) :
    t.isoFields.toTuple.Readable months t.dateTime.date.month t.dateTime.micro ∧
      t.isoFields.toTuple.reading t.dateTime.date.month t.dateTime.micro = t.dateTime := by
  have hreading : t.isoFields.toTuple.reading t.dateTime.date.month t.dateTime.micro = t.dateTime := rfl
  refine ⟨⟨rfl, t.fractionMicros_isoTuple, ?_, t.yearRepresentable_dateTime⟩, hreading⟩
  rw [hreading]
  exact DateTime.ofMicros_valid t.micros

/-- The stamp the fields of a timestamp's text give to its own instant. -/
theorem stampOf_isoTuple (t : Timestamp) (isLocal : Bool) :
    ∃ t2, t.isoFields.toTuple.stampOf t.micros isLocal = .ok t2 ∧ t2.micros = t.micros ∧
      t2.isLocal = isLocal := by
  have hrep : Representable t.micros := t.representable
  cases hres : t.resolution <;>
    simp only [TimeTuple.stampOf, isoFields, IsoFields.toTuple, isoFraction, hres]
  case seconds =>
    -- a count of whole seconds loses nothing to the division
    have hval : t.micros = t.value * 1000000 := by simp [micros, hres, Resolution.microsPerUnit]
    have hdiv : t.micros / 1000000 * Resolution.seconds.microsPerUnit = t.micros := by
      simp only [Resolution.microsPerUnit]
      omega
    rw [stamp_of_representable isLocal (by rwa [hdiv])]
    exact ⟨_, rfl, by exact hdiv, rfl⟩
  all_goals
    have hone : t.micros * Resolution.micros.microsPerUnit = t.micros := Int.mul_one _
    rw [stamp_of_representable isLocal (by rwa [hone])]
    exact ⟨_, rfl, by exact hone, rfl⟩

/-- The ISO text of every timestamp has the form `IsoFields.read` reads, with three
fraction digits to the millisecond, six to the microsecond, none to the second,
and a final `Z` exactly in UTC; its fields, taken as a calendar tuple at offset 0
when in UTC, normalize back to the same instant and locality. -/
theorem iso_reads_back (t : Timestamp) :
    ∃ f, IsoFields.read t.iso = some f ∧ f.fraction.map Fraction.digits = t.resolution.isoDigits ∧
      f.utc = !t.isLocal ∧
      ∃ t2, RawTime.normalize {} (.tuple f.toTuple) = .ok t2 ∧ t2.micros = t.micros ∧
        t2.isLocal = t.isLocal := by
  refine ⟨t.isoFields, read_iso t, ?_, rfl, ?_⟩
  · simp only [isoFields, isoFraction]
    cases t.resolution <;> rfl
  · obtain ⟨hreadable, hreading⟩ := t.readable_isoTuple MonthTable.english
    have hcount : (t.isoFields.toTuple.reading t.dateTime.date.month t.dateTime.micro).micros = t.micros := by
      rw [hreading]
      exact DateTime.micros_ofMicros t.micros
    simp only [RawTime.normalize, TimeTuple.normalize_of_readable hreadable, hcount]
    cases hl : t.isLocal with
    | true =>
      simpa [isoFields, IsoFields.toTuple, hl] using stampOf_isoTuple t true
    | false =>
      have hrep : Representable (t.value * t.resolution.microsPerUnit) := t.representable
      simp only [Representable] at hrep
      simpa [isoFields, IsoFields.toTuple, hl, hrep, micros] using stampOf_isoTuple t false

end Timestamp

end Timeline.Time