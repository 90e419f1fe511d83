import Mathlib
import Timeline.Proofs.FieldReading
import Timeline.Proofs.JoinedLines
import Timeline.Proofs.TextScan
import Timeline.Proofs.TimeTuples
import Timeline.Proofs.FirstUnit
import Timeline.Artifact.Logs
/-!
# vsftpd logs

vsftpd writes one line per event: a weekday and a month name of three letters,
the day (padded with spaces to two places), the time of day, the year and the
message, as in `Mon Jun  6 18:43:28 2016 [pid 3] OK LOGIN`. What a scan hands
on for such a line is decided by the month name and the calendar alone.

* Month names. The table of English month names reads a name as its place
  among `jan` to `dec`, in any case of its letters (`english_number`).
* A line. `VsftpdLine` holds the parts of a line as the format allows them.
  The grammar reads them into a record (`VsftpdLine.apply_text`), whose time
  becomes the calendar tuple of the line (`VsftpdLine.extract_text`).
* What a line gives. `VsftpdLine.HandsOn` says what a scan must hand on for a
  line: its event when the month name is known and the day is in its month,
  and otherwise a warning that names the failure (`VsftpdLine.handsOn_outcome`).
* A log. `vsftpdLog_scan_hands_on_each_line` scans the lines of a log, blank
  or not, joined by line feeds: the scan succeeds and hands on, in order, what
  each line that is not blank must give, at its line, and nothing for a blank
  line. The weekday is never read.
-/

namespace Timeline

open Time Builtin

/-! ## Month names -/

/-- The abbreviations of the English month names, in the order of the months. -/
def monthAbbreviations : List String :=
  ["jan", "feb", "mar", "apr", "may", "jun", "jul", "aug", "sep", "oct", "nov", "dec"]

/-- The month of a name among `jan` to `dec`, in any case of its letters. -/
def abbreviatedMonth? (name : List Char) : Option Nat :=
  (monthAbbreviations.findIdx? (·.toList = name.map Char.toLower)).map (· + 1)

/-- A table of lower-case names numbered from `k` reads a name as the place of
its lower-case form, counted from `k`, and as 0 when it has no place. -/
theorem number_zip_range (ns : List String) (hlower : ∀ n ∈ ns, n.toList.map Char.toLower = n.toList)
    (k : Nat) (name : List Char) :
    MonthTable.number ⟨ns.zip (List.range' k ns.length)⟩ (String.ofList name) =
      ((ns.findIdx? (·.toList = name.map Char.toLower)).map (· + k)).getD 0 := by
  induction ns generalizing k with
  | nil => simp [MonthTable.number]
  | cons n ns ih =>
    have hn := hlower n List.mem_cons_self
    have hrest := ih (fun n' h => hlower n' (List.mem_cons_of_mem _ h)) (k + 1)
    simp only [MonthTable.number, List.length_cons, List.range'_succ, List.zip_cons_cons,
      List.find?_cons, sameIgnoringAsciiCase, String.toList_ofList, hn, List.findIdx?_cons] at hrest ⊢
    by_cases h : n.toList = name.map Char.toLower
    · simp [h]
    · have hb : (n.toList == name.map Char.toLower) = false := by simpa using h
      simp only [hb, h, decide_false, Bool.false_eq_true, if_false]
      rw [hrest]
      cases ns.findIdx? (·.toList = name.map Char.toLower) with
      | none => rfl
      | some i => simp only [Option.map_some, Option.getD_some]; omega

/-- The English table reads a month name as its place among `jan` to `dec`, in
any case of its letters, and as 0 otherwise. -/
theorem english_number (name : List Char) :
    MonthTable.english.number (String.ofList name) = (abbreviatedMonth? name).getD 0 :=
  number_zip_range monthAbbreviations (by decide) 1 name

example : abbreviatedMonth? ['J', 'u', 'N'] = some 6 := by decide

/-- A month name among `jan` to `dec` gives a month from 1 to 12. -/
theorem abbreviatedMonth?_bounds {name : List Char} {month : Nat}
    (h : abbreviatedMonth? name = some month) : 1 ≤ month ∧ month ≤ 12 := by
  obtain ⟨i, hi, rfl⟩ := Option.map_eq_some_iff.mp h
  have hlt := (List.findIdx?_eq_some_iff_findIdx_eq.mp hi).1
  simp only [monthAbbreviations, List.length_cons, List.length_nil] at hlt
  omega

/-! ## Lines -/

/-- `n` ASCII letters. -/
def AsciiLetters (n : Nat) (cs : List Char) : Prop :=
  cs.length = n ∧ ∀ c ∈ cs, c.isAlpha = true

/-- `n` ASCII digits. -/
def AsciiDigits (n : Nat) (cs : List Char) : Prop :=
  cs.length = n ∧ ∀ c ∈ cs, c.isDigit = true

/-- The number that digits spell. -/
def digitValue (cs : List Char) : Nat :=
  Nat.ofDigitChars 10 cs 0

/-- A line of a vsftpd log, as the format allows it: three letters for the
weekday and for the month, the day in one or two digits after extra spaces, the
time of day in two digits a part, four digits of year, and a message that is
one line and does not open with a space or a tab. -/
structure VsftpdLine where
  weekday : List Char
  month : List Char
  extraSpaces : Nat
  day : List Char
  hour : List Char
  minute : List Char
  second : List Char
  year : List Char
  message : String
  weekday_letters : AsciiLetters 3 weekday
  month_letters : AsciiLetters 3 month
  day_digits : AsciiDigits 1 day ∨ AsciiDigits 2 day
  hour_digits : AsciiDigits 2 hour ∧ digitValue hour < 24
  minute_digits : AsciiDigits 2 minute ∧ digitValue minute < 60
  second_digits : AsciiDigits 2 second ∧ digitValue second < 60
  year_digits : AsciiDigits 4 year
  message_one_line : '\n' ∉ message.toList ∧ '\r' ∉ message.toList
  message_start : ∀ c ∈ message.toList.head?, c ≠ ' ' ∧ c ≠ '\t'

namespace VsftpdLine

/-- The characters of a line: `W M D hh:mm:ss YYYY message`. -/
def chars (l : VsftpdLine) : List Char :=
  l.weekday ++ ' ' :: l.month ++ ' ' :: List.replicate l.extraSpaces ' ' ++ l.day ++ ' ' :: l.hour ++
    ':' :: l.minute ++ ':' :: l.second ++ ' ' :: l.year ++ ' ' :: l.message.toList

/-- The text of a line. -/
def text (l : VsftpdLine) : String :=
  String.ofList l.chars

/-- The record the grammar reads from a line. -/
def record (l : VsftpdLine) : Record :=
  ((((((NameMap.empty.insert "month" (.str (String.ofList l.month))).insert "day"
    (.int (digitValue l.day))).insert "hour" (.int (digitValue l.hour))).insert "minute"
    (.int (digitValue l.minute))).insert "second" (.int (digitValue l.second))).insert "year"
    (.int (digitValue l.year))).insert "text" (.str l.message)

end VsftpdLine

/-! ## Reading a line -/

theorem AsciiLetters.not_blank {n : Nat} {cs : List Char} (h : AsciiLetters n cs) (hn : 0 < n)
    (rest : List Char) : ∀ c ∈ (cs ++ rest).head?, c ≠ ' ' ∧ c ≠ '\t' := by
  obtain ⟨c, cs', rfl⟩ := List.exists_cons_of_ne_nil (List.ne_nil_of_length_pos (h.1 ▸ hn))
  have hc := h.2 c List.mem_cons_self
  rintro d ⟨⟩
  constructor <;> (rintro rfl; cases hc)

theorem AsciiDigits.not_blank {n : Nat} {cs : List Char} (h : AsciiDigits n cs) (hn : 0 < n)
    (rest : List Char) : ∀ c ∈ (cs ++ rest).head?, c ≠ ' ' ∧ c ≠ '\t' := by
  obtain ⟨c, cs', rfl⟩ := List.exists_cons_of_ne_nil (List.ne_nil_of_length_pos (h.1 ▸ hn))
  have hc := h.2 c List.mem_cons_self
  rintro d ⟨⟩
  constructor <;> (rintro rfl; cases hc)

/-- One or two digits are `n` digits for some `n` from 1 to 2. -/
theorem AsciiDigits.one_or_two {cs : List Char} (h : AsciiDigits 1 cs ∨ AsciiDigits 2 cs) :
    ∃ n, 0 < n ∧ n ≤ 2 ∧ AsciiDigits n cs := by
  rcases h with h | h
  · exact ⟨1, by decide, by decide, h⟩
  · exact ⟨2, by decide, by decide, h⟩

theorem AsciiDigits.digitValue_lt {n : Nat} {cs : List Char} (h : AsciiDigits n cs) :
    digitValue cs < 10 ^ n :=
  h.1 ▸ Text.ofDigitChars_lt h.2

/-- A field of `n` digits, `n` between the bounds, ended by a character that is
no digit, is read as its value. -/
theorem AsciiDigits.apply {n lo hi : Nat} {cs : List Char} (h : AsciiDigits n cs) (hn : 0 < n)
    (hlo : lo ≤ n) (hhi : n ≤ hi) (hfit : n ≤ 18) {x : Char} (hx : x.isDigit = false)
    (rest : List Char) :
    (Matcher.digits lo hi).apply (cs ++ x :: rest) = .ok (.int (digitValue cs), x :: rest) := by
  have hv := h.digitValue_lt
  obtain ⟨hlen, hd⟩ := h
  have hpow : 10 ^ n ≤ 10 ^ 18 := Nat.pow_le_pow_right (by decide) hfit
  have hne : cs ≠ [] := List.ne_nil_of_length_pos (by omega)
  exact apply_digits hd hne (by omega) (by omega) (.inr fun c hc => by cases hc; exact hx)
    (by simp only [Number.int64Max]; unfold digitValue at hv; omega)

theorem VsftpdLine.fieldsRead (l : VsftpdLine) :
    FieldsRead vsftpdLog.grammar.fields l.chars NameMap.empty l.record [] := by
  obtain ⟨W, M, k, D, H, Mi, S, Y, msg, hW, hM, hD, ⟨hH, -⟩, ⟨hMi, -⟩, ⟨hS, -⟩, hY, -, hmsg⟩ := l
  have hcolon : ":".toList = [':'] := rfl
  simp only [chars, record, List.cons_append, List.append_assoc]
  -- the weekday, read and left out of the record
  apply FieldsRead.cons
  · rw [skipInlineBlanks_of_head (hW.not_blank (by decide) _)]
    exact apply_alpha hW.2 (by rw [hW.1]) (by rw [hW.1]) (.inl hW.1)
  -- the month name
  apply FieldsRead.cons
  · rw [skipInlineBlanks_space, skipInlineBlanks_of_head (hM.not_blank (by decide) _)]
    exact apply_alpha hM.2 (by rw [hM.1]) (by rw [hM.1]) (.inl hM.1)
  -- the day, after any extra spaces
  apply FieldsRead.cons
  · obtain ⟨n, hn, hn2, hD⟩ := AsciiDigits.one_or_two hD
    rw [skipInlineBlanks_space, skipInlineBlanks_replicate, skipInlineBlanks_of_head (hD.not_blank hn _)]
    exact hD.apply hn (by omega) hn2 (by omega) rfl _
  -- the time of day
  apply FieldsRead.cons
  · rw [skipInlineBlanks_space, skipInlineBlanks_of_head (hH.not_blank (by decide) _)]
    exact hH.apply (by decide) (by decide) (by decide) (by decide) rfl _
  apply FieldsRead.cons
  · exact apply_skip_literal_char hcolon (by decide) _
  apply FieldsRead.cons
  · rw [skipInlineBlanks_of_head (hMi.not_blank (by decide) _)]
    exact hMi.apply (by decide) (by decide) (by decide) (by decide) rfl _
  apply FieldsRead.cons
  · exact apply_skip_literal_char hcolon (by decide) _
  apply FieldsRead.cons
  · rw [skipInlineBlanks_of_head (hS.not_blank (by decide) _)]
    exact hS.apply (by decide) (by decide) (by decide) (by decide) rfl _
  -- the year
  apply FieldsRead.cons
  · rw [skipInlineBlanks_space, skipInlineBlanks_of_head (hY.not_blank (by decide) _)]
    exact hY.apply (by decide) (by decide) (by decide) (by decide) rfl _
  -- the message, to the end of the line
  apply FieldsRead.cons
  · rw [skipInlineBlanks_space, skipInlineBlanks_of_head hmsg]
    exact apply_rest true _ (.inl rfl)
  rw [String.ofList_toList]
  exact .nil _ _

namespace VsftpdLine

theorem apply_text (l : VsftpdLine) : vsftpdLog.grammar.apply l.text = .ok l.record := by
  have h : FieldsRead vsftpdLog.grammar.fields l.text.toList NameMap.empty l.record [] := by
    rw [text, String.toList_ofList]
    exact l.fieldsRead
  exact applyFields_of_fieldsRead h rfl

/-- The calendar tuple of a line's time, with its month by name. -/
def tuple (l : VsftpdLine) : TimeTuple :=
  ⟨digitValue l.year, .name (String.ofList l.month), digitValue l.day, digitValue l.hour,
    digitValue l.minute, digitValue l.second, none, none⟩

theorem extract_text (l : VsftpdLine) (year : Option Int) :
    ∃ r, vsftpdLog.grammar.extract l.text year = .ok r ∧
      r.get? "added_time" = some (.time (.tuple l.tuple)) ∧ r.get? "text" = some (.str l.message) := by
  have hY := l.year_digits.digitValue_lt
  have hD : digitValue l.day < 100 := by
    obtain ⟨n, -, hn2, h⟩ := AsciiDigits.one_or_two l.day_digits
    have hpow : 10 ^ n ≤ 10 ^ 2 := Nat.pow_le_pow_right (by decide) hn2
    have := h.digitValue_lt
    omega
  have hH := l.hour_digits.2
  have hMi := l.minute_digits.2
  have hS := l.second_digits.2
  rw [extract_of_apply_ok l.apply_text]
  simp only [vsftpdLog, List.foldlM_cons, List.foldlM_nil, assembleInto_eq, TimeField.assemble,
    TupleLayout.takeYear, TupleLayout.takeFraction]
  -- the components, each taken out of what the one before left
  have h1 : (takeBounded "added_time" "year" (-2147483648) 2147483647).run l.record =
      .ok (digitValue l.year, l.record.erase "year") :=
    run_takeBounded_of_get? (by simp [record]) (by omega)
  rw [run_bind_of_ok h1]
  set r1 := l.record.erase "year" with hr1
  have h2 : (takeMonth "added_time" "month").run r1 = .ok (.name (String.ofList l.month), r1.erase "month") :=
    run_takeMonth_of_str (by simp [hr1, record])
  rw [run_bind_of_ok h2, pure_bind]
  set r2 := r1.erase "month" with hr2
  have h3 : (takeWord "added_time" "day").run r2 = .ok (digitValue l.day, r2.erase "day") := by
    simpa using run_takeWord_of_get? (n := digitValue l.day) (by simp [hr2, hr1, record]) (by omega)
  rw [run_bind_of_ok h3]
  set r3 := r2.erase "day" with hr3
  have h4 : (takeWord "added_time" "hour").run r3 = .ok (digitValue l.hour, r3.erase "hour") := by
    simpa using run_takeWord_of_get? (n := digitValue l.hour) (by simp [hr3, hr2, hr1, record]) (by omega)
  rw [run_bind_of_ok h4]
  set r4 := r3.erase "hour" with hr4
  have h5 : (takeWord "added_time" "minute").run r4 = .ok (digitValue l.minute, r4.erase "minute") := by
    simpa using run_takeWord_of_get? (n := digitValue l.minute) (by simp [hr4, hr3, hr2, hr1, record])
      (by omega)
  rw [run_bind_of_ok h5]
  set r5 := r4.erase "minute" with hr5
  have h6 : (takeWord "added_time" "second").run r5 = .ok (digitValue l.second, r5.erase "second") := by
    simpa using run_takeWord_of_get? (n := digitValue l.second)
      (by simp [hr5, hr4, hr3, hr2, hr1, record]) (by omega)
  rw [run_bind_of_ok h6]
  refine ⟨_, rfl, ?_, ?_⟩
  · simp [tuple]
  · simp [hr5, hr4, hr3, hr2, hr1, record]

/-! ## The time of a line -/

/-- The date of a line, for the number of its month. -/
def date (l : VsftpdLine) (month : Nat) : Date :=
  ⟨digitValue l.year, month, digitValue l.day⟩

/-- The wall-clock reading of a line, for the number of its month. -/
def reading (l : VsftpdLine) (month : Nat) : DateTime :=
  ⟨l.date month, digitValue l.hour, digitValue l.minute, digitValue l.second, 0⟩

theorem resolve_tuple {l : VsftpdLine} {month : Nat} (h : abbreviatedMonth? l.month = some month) :
    l.tuple.month.resolve MonthTable.english = .ok month := by
  have hm := abbreviatedMonth?_bounds h
  have hnumber : MonthTable.english.number (String.ofList l.month) = month := by
    rw [english_number, h, Option.getD_some]
  simp only [tuple, MonthRef.resolve, hnumber]
  split
  · omega
  · rfl

theorem normalize_tuple_of_unknown {l : VsftpdLine} (h : abbreviatedMonth? l.month = none) :
    l.tuple.normalize MonthTable.english = .error (.unknownMonthName (String.ofList l.month)) :=
  TimeTuple.normalize_of_unknownName rfl (by rw [english_number, h, Option.getD_none])

theorem normalize_tuple_of_valid {l : VsftpdLine} {month : Nat}
    (h : abbreviatedMonth? l.month = some month) (hv : (l.date month).Valid) :
    ∃ t, l.tuple.normalize MonthTable.english = .ok t ∧ t.resolution = .seconds ∧ t.isLocal = true ∧
      t.dateTime = l.reading month := by
  have hY := l.year_digits.digitValue_lt
  have hH := l.hour_digits.2
  have hMi := l.minute_digits.2
  have hS := l.second_digits.2
  have hread : l.tuple.Readable MonthTable.english month 0 :=
    { resolves := resolve_tuple h
      fractionMicros := rfl
      valid := ⟨hv, by simp only [tuple, TimeTuple.reading]; omega⟩
      inRange := by
        have hrange : -262143 ≤ (digitValue l.year : Int) ∧ (digitValue l.year : Int) ≤ 262142 := by omega
        simpa [tuple, yearRepresentable] using hrange }
  exact TimeTuple.normalize_of_readable_local hread rfl rfl

theorem normalize_tuple_of_invalid {l : VsftpdLine} {month : Nat}
    (h : abbreviatedMonth? l.month = some month) (hv : ¬(l.date month).Valid) :
    l.tuple.normalize MonthTable.english =
      .error (.dayOutOfRange (digitValue l.year) month (digitValue l.day)) := by
  have hm := abbreviatedMonth?_bounds h
  have hday : digitValue l.day = 0 ∨ digitValue l.day > daysInMonth (digitValue l.year) month := by
    simp only [Date.Valid, date] at hv
    omega
  exact TimeTuple.normalize_of_day_out_of_range (resolve_tuple h) hm hday

end VsftpdLine

/-! ## What a line gives -/

/-- The event of a record with a time and a message: the time normalized under
`added_time` and the message under `text`, or the failure of the time. -/
theorem vsftpd_toEvent {r : Record} {raw : RawTime} {m : String} (location : Location)
    (ht : r.get? "added_time" = some (.time raw)) (hm : r.get? "text" = some (.str m)) :
    vsftpdLog.emission.toEvent vsftpdLog.name location r vsftpdLog.hints =
      match raw.normalize {} with
      | .ok t => .ok ⟨"vsftpd", "vsftpd:log", location,
          (NameMap.empty.insert "added_time" (.timestamp t)).insert "text" (.str m)⟩
      | .error e => .error ⟨"added_time", e⟩ := by
  cases hn : raw.normalize {} with
  | ok t =>
    simp [Emission.toEvent, vsftpdLog, AttributeSpec.value, AttributeSpec.same, ht, hm, hn, bind,
      Except.bind, pure, Except.pure]
  | error e =>
    simp [Emission.toEvent, vsftpdLog, AttributeSpec.value, AttributeSpec.same, ht, hn, bind,
      Except.bind]

namespace VsftpdLine

/-- What a scan must hand on for a line at line `number`. -/
inductive HandsOn (l : VsftpdLine) (number : Nat) : Handed → Prop
  /-- A month name among `jan` to `dec`, in any case of its letters, and a day
  of that month in the line's year: the event of the artifact at the line, with
  the local time of the line to the second under `added_time` and the message
  under `text`. -/
  | event {month : Nat} {t : Timestamp} (hmonth : abbreviatedMonth? l.month = some month)
      (hdate : (l.date month).Valid) (hres : t.resolution = .seconds) (hlocal : t.isLocal = true)
      (hreading : t.dateTime = l.reading month) :
      HandsOn l number (.event ⟨"vsftpd", "vsftpd:log", .line number,
        (NameMap.empty.insert "added_time" (.timestamp t)).insert "text" (.str l.message)⟩)
  /-- A month name that is none of them: a warning at the line, with its text,
  that the name is unknown. -/
  | unknownMonth (hmonth : abbreviatedMonth? l.month = none) :
      HandsOn l number (.warning ⟨"vsftpd", .line number, l.text,
        (EmitError.mk "added_time" (.unknownMonthName (String.ofList l.month))).message⟩)
  /-- A day that the month lacks in the line's year: a warning at the line, with
  its text, that the day is out of range. -/
  | dayOutOfRange {month : Nat} (hmonth : abbreviatedMonth? l.month = some month)
      (hdate : ¬(l.date month).Valid) :
      HandsOn l number (.warning ⟨"vsftpd", .line number, l.text,
        (EmitError.mk "added_time"
          (.dayOutOfRange (digitValue l.year) month (digitValue l.day))).message⟩)

/-- What a scan hands on for a line: the event of its time, or a warning with
the failure of its time. -/
theorem outcome_text (l : VsftpdLine) (year : Option Int) (number : Nat) :
    vsftpdLog.outcome year ⟨number, l.text, true⟩ =
      match l.tuple.normalize MonthTable.english with
      | .ok t => .event ⟨"vsftpd", "vsftpd:log", .line number,
          (NameMap.empty.insert "added_time" (.timestamp t)).insert "text" (.str l.message)⟩
      | .error e => .warning ⟨"vsftpd", .line number, l.text, (EmitError.mk "added_time" e).message⟩ := by
  obtain ⟨r, hx, ht, hm⟩ := l.extract_text year
  have hev := vsftpd_toEvent (.line number) ht hm
  have hraw : RawTime.normalize {} (.tuple l.tuple) = l.tuple.normalize MonthTable.english := rfl
  simp only [TextArtifact.outcome, Bool.not_true, Bool.false_eq_true, ↓reduceIte, hx, hev, hraw]
  cases l.tuple.normalize MonthTable.english <;> rfl

/-- What a scan hands on for a line is what the line must give. -/
theorem handsOn_outcome (l : VsftpdLine) (year : Option Int) (number : Nat) :
    l.HandsOn number (vsftpdLog.outcome year ⟨number, l.text, true⟩) := by
  rw [outcome_text]
  -- the normalized time decides the outcome, and the month name and the date decide it
  cases hmonth : abbreviatedMonth? l.month with
  | none =>
    rw [normalize_tuple_of_unknown hmonth]
    exact .unknownMonth hmonth
  | some month =>
    by_cases hv : (l.date month).Valid
    · obtain ⟨t, hnorm, hres, hlocal, hdt⟩ := normalize_tuple_of_valid hmonth hv
      rw [hnorm]
      exact .event hmonth hv hres hlocal hdt
    · rw [normalize_tuple_of_invalid hmonth hv]
      exact .dayOutOfRange hmonth hv

end VsftpdLine

/-! ## The characters of a line -/

namespace VsftpdLine

/-- A character that is no ASCII letter or digit, no space and no colon, and
that the message lacks, is not in a line. -/
theorem not_mem_chars (l : VsftpdLine) {x : Char} (hx : x.isAlpha = false ∧ x.isDigit = false)
    (hsep : x ≠ ' ' ∧ x ≠ ':') (hm : x ∉ l.message.toList) : x ∉ l.chars := by
  have hletters : ∀ {n cs}, AsciiLetters n cs → x ∉ cs := fun h hc => by
    simp [h.2 x hc] at hx
  have hdigits : ∀ {n cs}, AsciiDigits n cs → x ∉ cs := fun h hc => by
    simp [h.2 x hc] at hx
  have hday : x ∉ l.day := by
    obtain ⟨n, -, -, h⟩ := AsciiDigits.one_or_two l.day_digits
    exact hdigits h
  simp [chars, hsep.1, hsep.2, hletters l.weekday_letters, hletters l.month_letters, hday,
    hdigits l.hour_digits.1, hdigits l.minute_digits.1, hdigits l.second_digits.1,
    hdigits l.year_digits, hm]

theorem lineFeed_not_mem (l : VsftpdLine) : '\n' ∉ l.text.toList := by
  rw [text, String.toList_ofList]
  exact l.not_mem_chars (by decide) (by decide) l.message_one_line.1

theorem carriageReturn_not_mem (l : VsftpdLine) : '\r' ∉ l.text.toList := by
  rw [text, String.toList_ofList]
  exact l.not_mem_chars (by decide) (by decide) l.message_one_line.2

/-- A line opens with the first letter of its weekday. -/
theorem head?_text (l : VsftpdLine) : ∃ c, l.text.toList.head? = some c ∧ c.isAlpha = true := by
  obtain ⟨hlen, hletters⟩ := l.weekday_letters
  obtain ⟨c, cs, hw⟩ := List.exists_cons_of_ne_nil (List.ne_nil_of_length_pos (by omega : 0 < l.weekday.length))
  refine ⟨c, ?_, hletters c (by simp [hw])⟩
  simp [text, chars, hw]

/-- A line is not blank: it opens with a letter. -/
theorem isBlank_text (l : VsftpdLine) : Text.isBlank l.text = false := by
  obtain ⟨c, hc, halpha⟩ := l.head?_text
  obtain ⟨cs, hcs⟩ : ∃ cs, l.text.toList = c :: cs := by
    cases h : l.text.toList with
    | nil => simp [h] at hc
    | cons d cs => simp only [h, List.head?_cons, Option.some.injEq] at hc; exact ⟨cs, hc ▸ rfl⟩
  have hspace : Text.Unicode.isWhiteSpace c = false := by
    cases hw : Text.Unicode.isWhiteSpace c with
    | false => rfl
    | true => simpa [isAsciiAlpha, halpha] using isAsciiAlpha_of_isWhiteSpace hw
  simp [Text.isBlank, hcs, hspace]

end VsftpdLine

/-! ## A log -/

/-- A line of a vsftpd log: blank, or as the format writes it. -/
inductive VsftpdLogLine where
  | blank (text : String) (isBlank : Text.isBlank text = true) (oneLine : '\n' ∉ text.toList)
  | entry (line : VsftpdLine)

namespace VsftpdLogLine

/-- The text of a line. -/
def text : VsftpdLogLine → String
  | .blank t _ _ => t
  | .entry l => l.text

/-- The line the format writes, when it is not blank. -/
def line? : VsftpdLogLine → Option VsftpdLine
  | .blank .. => none
  | .entry l => some l

/-- The lines of a log that are not blank, with their numbers counted from `n`,
are the entries of the log. -/
theorem filter_zipIdx_text (n : Nat) (lines : List VsftpdLogLine) :
    (((lines.map text).zipIdx n).filter fun p => !Text.isBlank p.1).map
        (fun p => (⟨p.2, p.1, true⟩ : TextUnit)) =
      ((lines.zipIdx n).filterMap fun p => p.1.line?.map (·, p.2)).map
        fun p => ⟨p.2, p.1.text, true⟩ := by
  induction lines generalizing n with
  | nil => rfl
  | cons x lines ih =>
    cases x with
    | blank t hblank _ => simp [text, line?, hblank, ih]
    | entry l => simp [text, line?, VsftpdLine.isBlank_text, ih]

end VsftpdLogLine

/-- A scan of the lines of a vsftpd log joined by line feeds, blank or as the
format writes them, succeeds and hands on exactly what each line that is not
blank must give, in order and at its line: its event when its month name is one
of `jan` to `dec` and its day is in that month, and otherwise a warning that the
month name is unknown or that the day is out of range. Blank lines give
nothing. -/
theorem vsftpdLog_scan_hands_on_each_line (year : Option Int) (lines : List VsftpdLogLine) :
    ∃ scan, vsftpdLog.scan year
        (LineSource.ofBytes ("\n".intercalate (lines.map VsftpdLogLine.text)).toUTF8.toList) = .ok scan ∧
      ∃ items, List.Forall₂ (fun p h => VsftpdLine.HandsOn p.1 p.2 h)
          ((lines.zipIdx 1).filterMap fun p => p.1.line?.map (·, p.2)) items ∧
        scan.collected.events.toList = items.filterMap Handed.event? ∧
        scan.collected.warnings.toList = items.filterMap Handed.warning? := by
  set text := "\n".intercalate (lines.map VsftpdLogLine.text) with htext
  -- the lines are lines of the text, and only blank ones may carry a carriage return
  have hlf : ∀ t ∈ lines.map VsftpdLogLine.text, '\n' ∉ t.toList := by
    simp only [List.mem_map]
    rintro t ⟨x, -, rfl⟩
    cases x with
    | blank t _ h => exact h
    | entry l => exact l.lineFeed_not_mem
  have hcr : ∀ t ∈ lines.map VsftpdLogLine.text, Text.isBlank t = false → '\r' ∉ t.toList := by
    simp only [List.mem_map]
    rintro t ⟨x, -, rfl⟩ hb
    cases x with
    | blank t h _ => simp [VsftpdLogLine.text, h] at hb
    | entry l => exact l.carriageReturn_not_mem
  -- the text opens with a letter, white space or a line feed, never with a byte order mark
  have hbom : text.toList.head? ≠ some '\uFEFF' := by
    have hsep : "\n".toList = ['\n'] := rfl
    cases lines with
    | nil => simp [text]
    | cons x rest =>
      intro h
      rw [htext, String.toList_intercalate, hsep, List.map_cons] at h
      rcases head?_intercalate_lineFeed _ h with h | ⟨-, h⟩
      · cases x with
        | blank t hb _ =>
          have hmem : '\uFEFF' ∈ t.toList := List.mem_of_mem_head? h
          simp only [Text.isBlank, List.all_eq_true] at hb
          exact absurd (hb _ hmem) (by decide)
        | entry l =>
          obtain ⟨c, hc, halpha⟩ := l.head?_text
          rw [VsftpdLogLine.text, hc, Option.some.injEq] at h
          subst h
          exact absurd halpha (by decide)
      · exact absurd h (by decide)
  have hseg : vsftpdLog.segment (splitLines text.toUTF8.toList) =
      ((lines.zipIdx 1).filterMap fun p => p.1.line?.map (·, p.2)).map
        fun p => ⟨p.2, p.1.text, true⟩ := by
    rw [TextArtifact.segment_intercalate rfl rfl _ hlf hcr hbom, VsftpdLogLine.filter_zipIdx_text]
  -- the scan hands on the outcome of each line that is not blank
  have hscan := vsftpdLog.scanInto_of_endsCleanly year {} (s := LineSource.ofBytes text.toUTF8.toList)
    (Or.inl rfl)
  have hpending : (LineSource.ofBytes text.toUTF8.toList).pending = splitLines text.toUTF8.toList := rfl
  have hyear : vsftpdLog.preambleYear year (splitLines text.toUTF8.toList) = year := rfl
  rw [hpending, hyear, hseg] at hscan
  have hforall : List.Forall₂ (fun p h => VsftpdLine.HandsOn p.1 p.2 h)
      ((lines.zipIdx 1).filterMap fun p => p.1.line?.map (·, p.2))
      ((((lines.zipIdx 1).filterMap fun p => p.1.line?.map (·, p.2)).map
        fun p => (⟨p.2, p.1.text, true⟩ : TextUnit)).map (vsftpdLog.outcome year)) := by
    simp only [List.forall₂_map_right_iff]
    exact List.forall₂_same.mpr fun p _ => p.1.handsOn_outcome year p.2
  generalize (((lines.zipIdx 1).filterMap fun p => p.1.line?.map (·, p.2)).map
    fun p => (⟨p.2, p.1.text, true⟩ : TextUnit)).map (vsftpdLog.outcome year) = items at hscan hforall
  refine ⟨_, by rw [TextArtifact.scan, hscan], items, hforall, ?_, ?_⟩
  · simpa using handAll_events {} items
  · simpa using handAll_warnings {} items

end Timeline
