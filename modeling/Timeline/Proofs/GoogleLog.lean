import Mathlib
import Timeline.Proofs.FieldReading
import Timeline.Proofs.PatternMatch
import Timeline.Proofs.RecordLines
import Timeline.Proofs.CalendarTuples
import Timeline.Artifact.Logs
/-!
# Google's log files

Google's logging library opens a file with a header: a line that gives the date
and time the file was created, `Log file created at: YYYY/MM/DD hh:mm:ss`, and
lines that give the machine, how long the program ran and the format of the
lines. Records follow, each of the form
`Lmmdd hh:mm:ss.uuuuuu thread file:line] message`, where `L` is one of `I`,
`W`, `E`, `F`; a message may span lines. Records carry no year: the header's
dates them.

* The header. `GoogleCreation.classify_line` and `GoogleHeaderLine.classify_line`:
  the header's pattern takes each of its lines, and only the first carries a
  year; `classify_eq_none_of_level` keeps the first line of a record out of it.
* The boundary. `isMatch_googleRecordStart_iff`: a line opens a record exactly
  when it opens with a level, the date and the time (`OpensGoogleRecord`).
* A record. `GoogleRecord.makesEvent_body`: the lines of a record, read with the
  year of its log, make its event; `GoogleRecord.isRecord_body`: under the
  boundary they make one record.
* A log. `googleLog_scan_events`: a log scans without a warning into the event
  of each record, in order, at the record's first line.
-/

namespace Timeline

open Time Builtin Pattern Text.Unicode

/-! ## The header -/

/-- A fixed text is no prefix of a text that opens with another, when neither
of the two fixed texts opens the other. -/
theorem not_prefix_append_of_incomparable {t u : List Char} (htu : ¬t <+: u) (hut : ¬u <+: t)
    (rest : List Char) : ¬t <+: u ++ rest := fun h =>
  (List.prefix_or_prefix_of_prefix h (List.prefix_append u rest)).elim htu hut

theorem googleCreatedAt_true :
    googleCreatedAt true = .seq (Pattern.text "Log file created at: ") (seqs [.group "year" (digits 4),
      .char '/', digits 2, .char '/', digits 2, .char ' ', digits 2, .char ':', digits 2, .char ':',
      digits 2]) := rfl

/-- The kinds of the further lines of a header: the machine the program ran on,
how long it ran, and the format of the lines. -/
inductive GoogleHeaderKind where
  | machine
  | duration
  | format
  deriving DecidableEq, Repr

/-- The words that open a further line of a header. -/
def GoogleHeaderKind.label : GoogleHeaderKind → String
  | .machine => "Running on machine: "
  | .duration => "Running duration (h:mm:ss): "
  | .format => "Log line format: "

/-- The pattern of the header's lines: the date the file was created, or one
of the further lines, each the whole line. -/
theorem googleLog_preamble :
    googleLog.preamble = some ⟨.seq .start (.seq (.alt (googleCreatedAt true)
      (.alt (.seq (Pattern.text GoogleHeaderKind.machine.label) anyText)
        (.alt (.seq (Pattern.text GoogleHeaderKind.duration.label) anyText)
          (.seq (Pattern.text GoogleHeaderKind.format.label) anyText)))) .finish)⟩ := rfl

/-- The date and time a log file was created, as its first line gives them:
four digits of year, and two of each other part. -/
structure GoogleCreation where
  year : Fin 10000
  month : Fin 100
  day : Fin 100
  hour : Fin 100
  minute : Fin 100
  second : Fin 100

/-- A further line of a header: its kind, then any text of one line. -/
structure GoogleHeaderLine where
  kind : GoogleHeaderKind
  note : String
  note_no_lf : '\n' ∉ note.toList
  note_no_cr : '\r' ∉ note.toList

/-- The first line of a header. -/
def GoogleCreation.line (c : GoogleCreation) : String :=
  "Log file created at: " ++ Text.padded 4 c.year ++ "/" ++ Text.padded 2 c.month ++ "/" ++
    Text.padded 2 c.day ++ " " ++ Text.padded 2 c.hour ++ ":" ++ Text.padded 2 c.minute ++ ":" ++
    Text.padded 2 c.second

/-- A further line of a header. -/
def GoogleHeaderLine.line (h : GoogleHeaderLine) : String :=
  h.kind.label ++ h.note

/-- Digits padded to their width run as that many digits. -/
theorem run_digits_padded {cs post : List Char} {pos w n : Nat} (hw : 0 < w) (hn : n < 10 ^ w)
    (h : cs.drop pos = (Text.padded w n).toList ++ post) {groups : Groups} {k : Continuation}
    {m : MatchEnd} (hk : k (pos + (Text.padded w n).toList.length) groups = some m) :
    (digits w).run cs.toArray pos groups k = some m := by
  have hlen := Text.length_padded hw hn
  show (Pattern.rep (.cls .digit) w (some w)).run cs.toArray pos groups k = some m
  exact run_rep_cls_of_drop h (fun c hc => isDecimalDigit_of_isDigit (Text.isDigit_of_mem_padded hc))
    (by omega) (.inl (by rw [hlen])) hk

/-- The end of a text is where the text ends. -/
theorem run_finish_of_size {cs : List Char} {pos : Nat} (h : cs.length = pos) (groups : Groups)
    (k : Continuation) : Pattern.finish.run cs.toArray pos groups k = k pos groups := by
  simp [run, h]

namespace GoogleCreation

theorem toList_line (c : GoogleCreation) :
    c.line.toList = "Log file created at: ".toList ++ (Text.padded 4 c.year).toList ++
      '/' :: (Text.padded 2 c.month).toList ++ '/' :: (Text.padded 2 c.day).toList ++
      ' ' :: (Text.padded 2 c.hour).toList ++ ':' :: (Text.padded 2 c.minute).toList ++
      ':' :: (Text.padded 2 c.second).toList := by
  have hslash : "/".toList = ['/'] := rfl
  have hspace : " ".toList = [' '] := rfl
  have hcolon : ":".toList = [':'] := rfl
  unfold line
  simp only [String.toList_append, hslash, hspace, hcolon, List.append_assoc, List.cons_append,
    List.nil_append]

/-- The header's pattern matches the first line whole, its year in the group
`year`. -/
theorem matchFrom_line (c : GoogleCreation) {p : Preamble} (hp : googleLog.preamble = some p) :
    p.pattern.matchFrom c.line.toList.toArray 0 =
      some (c.line.toList.length, [("year", 0 + "Log file created at: ".toList.length,
        0 + "Log file created at: ".toList.length + (Text.padded 4 c.year).toList.length)]) := by
  rw [googleLog_preamble, Option.some_inj] at hp
  subst hp
  -- what is left of the line after each part of the pattern
  have d0 : c.line.toList.drop 0 = "Log file created at: ".toList ++ ((Text.padded 4 c.year).toList ++
      '/' :: ((Text.padded 2 c.month).toList ++ '/' :: ((Text.padded 2 c.day).toList ++
      ' ' :: ((Text.padded 2 c.hour).toList ++ ':' :: ((Text.padded 2 c.minute).toList ++
      ':' :: ((Text.padded 2 c.second).toList ++ [])))))) := by
    simp [toList_line]
  have d1 := drop_add_length d0
  have d2 := drop_add_length d1
  have d3 := drop_succ_of_cons d2
  have d4 := drop_add_length d3
  have d5 := drop_succ_of_cons d4
  have d6 := drop_add_length d5
  have d7 := drop_succ_of_cons d6
  have d8 := drop_add_length d7
  have d9 := drop_succ_of_cons d8
  have d10 := drop_add_length d9
  have d11 := drop_succ_of_cons d10
  have d12 := drop_add_length d11
  have hsize : c.line.toList.length = 0 + "Log file created at: ".toList.length +
      (Text.padded 4 c.year).toList.length + 1 + (Text.padded 2 c.month).toList.length + 1 +
      (Text.padded 2 c.day).toList.length + 1 + (Text.padded 2 c.hour).toList.length + 1 +
      (Text.padded 2 c.minute).toList.length + 1 + (Text.padded 2 c.second).toList.length := by
    simp [toList_line]
    omega
  rw [matchFrom, run, run_start, run]
  apply run_alt_of_eq_some
  rw [googleCreatedAt_true, run, Pattern.text, run_chars_of_drop d0, run_seqs_cons _ (by simp), run]
  -- the year, recorded in its group
  refine run_digits_padded (w := 4) (by decide) (by simp [c.year.isLt]) d1 ?_
  rw [run_seqs_cons _ (by simp), run_char_of_drop d2, run_seqs_cons _ (by simp)]
  refine run_digits_padded (w := 2) (by decide) (by simp [c.month.isLt]) d3 ?_
  rw [run_seqs_cons _ (by simp), run_char_of_drop d4, run_seqs_cons _ (by simp)]
  refine run_digits_padded (w := 2) (by decide) (by simp [c.day.isLt]) d5 ?_
  rw [run_seqs_cons _ (by simp), run_char_of_drop d6, run_seqs_cons _ (by simp)]
  refine run_digits_padded (w := 2) (by decide) (by simp [c.hour.isLt]) d7 ?_
  rw [run_seqs_cons _ (by simp), run_char_of_drop d8, run_seqs_cons _ (by simp)]
  refine run_digits_padded (w := 2) (by decide) (by simp [c.minute.isLt]) d9 ?_
  rw [run_seqs_cons _ (by simp), run_char_of_drop d10, seqs]
  refine run_digits_padded (w := 2) (by decide) (by simp [c.second.isLt]) d11 ?_
  -- the end of the line
  rw [run_finish_of_size hsize, hsize]

/-- The first line of a header gives the year of the file. -/
theorem classify_line (c : GoogleCreation) {p : Preamble} (hp : googleLog.preamble = some p) :
    p.classify c.line = some (some ((c.year : Nat) : Int)) := by
  have hlen : (Text.padded 4 c.year).toList.length = 4 := Text.length_padded (by decide) (by simp [c.year.isLt])
  -- the year's group holds the four digits after the opening words
  have hyear : (c.line.toList.drop (0 + "Log file created at: ".toList.length)).take
      (0 + "Log file created at: ".toList.length + (Text.padded 4 c.year).toList.length -
        (0 + "Log file created at: ".toList.length)) = (Text.padded 4 c.year).toList := by
    rw [toList_line, Nat.zero_add, Nat.add_sub_cancel_left]
    simp only [List.append_assoc, List.cons_append]
    rw [List.drop_left, List.take_left]
  have hread : Number.readInt32? (String.ofList (Text.padded 4 c.year).toList) = some (c.year : Int) := by
    rw [Text.readInt32?_of_digits (List.ne_nil_of_length_pos (by omega))
      (fun x hx => Text.isDigit_of_mem_padded hx) (by rw [Text.ofDigitChars_padded]; omega),
      Text.ofDigitChars_padded]
  simp only [Preamble.classify, groupText?, search_of_matchFrom_zero (c.matchFrom_line hp), Option.map_some,
    List.find?_singleton, beq_self_eq_true, if_true, hyear, Option.bind_some, hread]

/-- The first line of a header breaks no line. -/
theorem breaks_not_mem_line (c : GoogleCreation) : '\n' ∉ c.line.toList ∧ '\r' ∉ c.line.toList := by
  rw [toList_line]
  constructor <;>
    simp [not_mem_padded_of_not_isDigit (x := '\n') rfl, not_mem_padded_of_not_isDigit (x := '\r') rfl]

end GoogleCreation

/-- A fixed text and then any text of one line run to the end of a line that
is the two. -/
theorem run_text_anyText {t note : String} (hlf : '\n' ∉ note.toList) {k : Continuation} {m : MatchEnd}
    (hk : k (t ++ note).toList.length [] = some m) :
    (Pattern.seq (Pattern.text t) anyText).run (t ++ note).toList.toArray 0 [] k = some m := by
  have d0 : (t ++ note).toList.drop 0 = t.toList ++ (note.toList ++ []) := by
    simp [String.toList_append]
  have d1 := drop_add_length d0
  rw [run, Pattern.text, run_chars_of_drop d0]
  refine run_rep_cls_of_drop d1 (fun x hx => ?_) (Nat.zero_le _) (.inr ⟨rfl, by simp⟩) ?_
  · have hx' : x ≠ '\n' := fun h => hlf (h ▸ hx)
    simpa [CharClass.accepts] using hx'
  · simpa [String.toList_append] using hk

/-- A fixed text and what follows it do not run on a text that it does not open. -/
theorem run_text_seq_eq_none {t : String} {q : Pattern} {cs : List Char} (h : ¬t.toList <+: cs)
    (groups : Groups) (k : Continuation) : (Pattern.seq (Pattern.text t) q).run cs.toArray 0 groups k = none :=
  run_eq_none_of_not_spans (fun _ hj => h (by simpa using prefix_of_spans_seq_text hj)) groups k

namespace GoogleHeaderLine

/-- The header's pattern matches a further line whole, with no group. -/
theorem matchFrom_line (h : GoogleHeaderLine) {p : Preamble} (hp : googleLog.preamble = some p) :
    p.pattern.matchFrom h.line.toList.toArray 0 = some (h.line.toList.length, []) := by
  rw [googleLog_preamble, Option.some_inj] at hp
  subst hp
  obtain ⟨kind, note, hlf, -⟩ := h
  -- the alternatives of the other kinds do not open the line
  have hother : ∀ {t : String}, ¬t.toList <+: kind.label.toList → ¬kind.label.toList <+: t.toList →
      ¬t.toList <+: (kind.label ++ note).toList := fun htu hut => by
    rw [String.toList_append]
    exact not_prefix_append_of_incomparable htu hut _
  simp only [line, matchFrom]
  rw [run, run_start, run, googleCreatedAt_true]
  cases kind with
  | machine =>
    rw [run_alt_of_eq_none (run_text_seq_eq_none (hother (by decide) (by decide)) _ _)]
    exact run_alt_of_eq_some (run_text_anyText hlf (run_finish_of_size rfl _ _))
  | duration =>
    rw [run_alt_of_eq_none (run_text_seq_eq_none (hother (by decide) (by decide)) _ _),
      run_alt_of_eq_none (run_text_seq_eq_none (hother (by decide) (by decide)) _ _)]
    exact run_alt_of_eq_some (run_text_anyText hlf (run_finish_of_size rfl _ _))
  | format =>
    rw [run_alt_of_eq_none (run_text_seq_eq_none (hother (by decide) (by decide)) _ _),
      run_alt_of_eq_none (run_text_seq_eq_none (hother (by decide) (by decide)) _ _),
      run_alt_of_eq_none (run_text_seq_eq_none (hother (by decide) (by decide)) _ _)]
    exact run_text_anyText hlf (run_finish_of_size rfl _ _)

/-- A further line of a header carries no year. -/
theorem classify_line (h : GoogleHeaderLine) {p : Preamble} (hp : googleLog.preamble = some p) :
    p.classify h.line = some none := by
  simp [Preamble.classify, groupText?, search_of_matchFrom_zero (h.matchFrom_line hp)]

/-- A further line of a header breaks no line. -/
theorem breaks_not_mem_line (h : GoogleHeaderLine) : '\n' ∉ h.line.toList ∧ '\r' ∉ h.line.toList := by
  have hlabel : '\n' ∉ h.kind.label.toList ∧ '\r' ∉ h.kind.label.toList := by
    cases h.kind <;> decide
  unfold line
  simp only [String.toList_append, List.mem_append, not_or]
  exact ⟨⟨hlabel.1, h.note_no_lf⟩, hlabel.2, h.note_no_cr⟩

end GoogleHeaderLine

/-! ## The lines that open a record -/

/-- `n` decimal digits of any script. -/
def DecimalDigits (n : Nat) (cs : List Char) : Prop :=
  cs.length = n ∧ ∀ c ∈ cs, isDecimalDigit c = true

/-- A line that opens a record: one of `I`, `W`, `E`, `F`, four digits, a
space, two digits, a colon, two digits, a colon, two digits, a point and six
digits, then anything. -/
def OpensGoogleRecord (line : List Char) : Prop :=
  ∃ level date hour minute second micros rest,
    line = level :: date ++ ' ' :: hour ++ ':' :: minute ++ ':' :: second ++ '.' :: micros ++ rest ∧
    (level = 'I' ∨ level = 'W' ∨ level = 'E' ∨ level = 'F') ∧ DecimalDigits 4 date ∧
    DecimalDigits 2 hour ∧ DecimalDigits 2 minute ∧ DecimalDigits 2 second ∧ DecimalDigits 6 micros

theorem accepts_level_iff (c : Char) :
    (CharClass.ranges [('I', 'I'), ('W', 'W'), ('E', 'E'), ('F', 'F')]).accepts c = true ↔
      c = 'I' ∨ c = 'W' ∨ c = 'E' ∨ c = 'F' := by
  simp only [CharClass.accepts, List.any_cons, List.any_nil, Bool.or_false, Bool.or_eq_true,
    Bool.and_eq_true, decide_eq_true_eq, ← le_antisymm_iff]
  constructor <;> rintro (rfl | rfl | rfl | rfl) <;> decide

/-- A line that opens a record is matched from its start. -/
theorem isMatch_of_opensGoogleRecord {s : String} (h : OpensGoogleRecord s.toList) :
    (seqs googleRecordStart).isMatch s = true := by
  obtain ⟨level, date, hour, minute, second, micros, rest, hs, hlevel, hdate, hhour, hminute, hsecond,
    hmicros⟩ := h
  -- what is left of the line after each part of the pattern
  have d0 : s.toList.drop 0 = level :: (date ++ ' ' :: (hour ++ ':' :: (minute ++ ':' ::
      (second ++ '.' :: (micros ++ rest))))) := by
    simpa using hs
  have d1 := drop_succ_of_cons d0
  have d2 := drop_add_length d1
  have d3 := drop_succ_of_cons d2
  have d4 := drop_add_length d3
  have d5 := drop_succ_of_cons d4
  have d6 := drop_add_length d5
  have d7 := drop_succ_of_cons d6
  have d8 := drop_add_length d7
  have d9 := drop_succ_of_cons d8
  have hdigits : ∀ {n cs}, DecimalDigits n cs → ∀ c ∈ cs, CharClass.accepts .digit c = true :=
    fun h c hc => h.2 c hc
  apply @isMatch_of_matchFrom_zero _ _ (0 + 1 + date.length + 1 + hour.length + 1 + minute.length + 1 +
    second.length + 1 + micros.length, [])
  rw [matchFrom, googleRecordStart, run_seqs_cons _ (by simp), run_start, run_seqs_cons _ (by simp),
    run_cls_of_drop d0 ((accepts_level_iff level).mpr hlevel), run_seqs_cons _ (by simp)]
  -- the date, then the time of day, each part ended by its separator
  refine run_rep_cls_of_drop d1 (hdigits hdate) (by rw [hdate.1]) (.inl (by rw [hdate.1])) ?_
  rw [run_seqs_cons _ (by simp), run_char_of_drop d2, run_seqs_cons _ (by simp)]
  refine run_rep_cls_of_drop d3 (hdigits hhour) (by rw [hhour.1]) (.inl (by rw [hhour.1])) ?_
  rw [run_seqs_cons _ (by simp), run_char_of_drop d4, run_seqs_cons _ (by simp)]
  refine run_rep_cls_of_drop d5 (hdigits hminute) (by rw [hminute.1]) (.inl (by rw [hminute.1])) ?_
  rw [run_seqs_cons _ (by simp), run_char_of_drop d6, run_seqs_cons _ (by simp)]
  refine run_rep_cls_of_drop d7 (hdigits hsecond) (by rw [hsecond.1]) (.inl (by rw [hsecond.1])) ?_
  rw [run_seqs_cons _ (by simp), run_char_of_drop d8, seqs]
  exact run_rep_cls_of_drop d9 (hdigits hmicros) (by rw [hmicros.1]) (.inl (by rw [hmicros.1])) rfl

/-- A line that the pattern matches opens a record. -/
theorem opensGoogleRecord_of_isMatch {s : String} (h : (seqs googleRecordStart).isMatch s = true) :
    OpensGoogleRecord s.toList := by
  obtain ⟨i, j, hspan⟩ := isMatch_sound h
  simp only [googleRecordStart, seqs] at hspan
  -- the span of each part of the pattern, from the start of the line
  obtain ⟨p0, h0, hspan⟩ := spans_seq_iff.mp hspan
  obtain ⟨rfl, rfl⟩ := spans_start_iff.mp h0
  obtain ⟨p1, h1, hspan⟩ := spans_seq_iff.mp hspan
  obtain ⟨⟨level, hc0, hlevel⟩, rfl⟩ := spans_cls_iff.mp h1
  obtain ⟨p2, h2, hspan⟩ := spans_seq_iff.mp hspan
  obtain ⟨date, e2, hl2, hd2⟩ := Spans.exists_times_cls h2
  obtain ⟨p3, h3, hspan⟩ := spans_seq_iff.mp hspan
  obtain ⟨hc3, rfl⟩ := spans_char_iff.mp h3
  obtain ⟨p4, h4, hspan⟩ := spans_seq_iff.mp hspan
  obtain ⟨hour, e4, hl4, hd4⟩ := Spans.exists_times_cls h4
  obtain ⟨p5, h5, hspan⟩ := spans_seq_iff.mp hspan
  obtain ⟨hc5, rfl⟩ := spans_char_iff.mp h5
  obtain ⟨p6, h6, hspan⟩ := spans_seq_iff.mp hspan
  obtain ⟨minute, e6, hl6, hd6⟩ := Spans.exists_times_cls h6
  obtain ⟨p7, h7, hspan⟩ := spans_seq_iff.mp hspan
  obtain ⟨hc7, rfl⟩ := spans_char_iff.mp h7
  obtain ⟨p8, h8, hspan⟩ := spans_seq_iff.mp hspan
  obtain ⟨second, e8, hl8, hd8⟩ := Spans.exists_times_cls h8
  obtain ⟨p9, h9, hspan⟩ := spans_seq_iff.mp hspan
  obtain ⟨hc9, rfl⟩ := spans_char_iff.mp h9
  obtain ⟨micros, e10, hl10, hd10⟩ := Spans.exists_times_cls hspan
  simp only [List.getElem?_toArray] at hc0 hc3 hc5 hc7 hc9
  refine ⟨level, date, hour, minute, second, micros, s.toList.drop j, ?_,
    (accepts_level_iff level).mp hlevel, ⟨hl2, hd2⟩, ⟨hl4, hd4⟩, ⟨hl6, hd6⟩, ⟨hl8, hd8⟩, ⟨hl10, hd10⟩⟩
  calc s.toList = s.toList.drop 0 := rfl
    _ = level :: date ++ ' ' :: hour ++ ':' :: minute ++ ':' :: second ++ '.' :: micros ++
        s.toList.drop j := by
      rw [drop_eq_cons_of_getElem? hc0, e2, drop_eq_cons_of_getElem? hc3, e4, drop_eq_cons_of_getElem? hc5,
        e6, drop_eq_cons_of_getElem? hc7, e8, drop_eq_cons_of_getElem? hc9, e10]
      simp

/-- The pattern that opens a record matches a line exactly when it opens a record. -/
theorem isMatch_googleRecordStart_iff (s : String) :
    (seqs googleRecordStart).isMatch s = true ↔ OpensGoogleRecord s.toList :=
  ⟨opensGoogleRecord_of_isMatch, isMatch_of_opensGoogleRecord⟩

/-- A text opens as a fixed text that it has in front. -/
theorem head?_eq_of_isPrefix {t cs : List Char} {c : Char} (h : t <+: cs) (ht : t.head? = some c) :
    cs.head? = some c := by
  obtain ⟨u, rfl⟩ := h
  cases t with
  | nil => cases ht
  | cons x xs => exact ht

/-- The header's pattern spans only lines that open with `L` or `R`: each of
its alternatives opens with a fixed text, and each text with one of the two. -/
theorem head_of_spans_preamble {p : Preamble} (hp : googleLog.preamble = some p) {cs : List Char}
    {i j : Nat} (h : Spans cs.toArray p.pattern i j) : cs.head? = some 'L' ∨ cs.head? = some 'R' := by
  rw [googleLog_preamble, Option.some_inj] at hp
  subst hp
  obtain ⟨p0, h0, hrest⟩ := spans_seq_iff.mp h
  obtain ⟨rfl, rfl⟩ := spans_start_iff.mp h0
  obtain ⟨p1, halt, -⟩ := spans_seq_iff.mp hrest
  have hopens : ∀ {t : String} {q : Pattern} {k : Nat}, Spans cs.toArray (.seq (Pattern.text t) q) 0 k →
      t.toList <+: cs := fun hs => by simpa using prefix_of_spans_seq_text hs
  rw [googleCreatedAt_true] at halt
  rcases spans_alt_iff.mp halt with hA | halt
  · exact .inl (head?_eq_of_isPrefix (hopens hA) rfl)
  rcases spans_alt_iff.mp halt with hB | halt
  · exact .inr (head?_eq_of_isPrefix (hopens hB) rfl)
  rcases spans_alt_iff.mp halt with hC | hD
  · exact .inr (head?_eq_of_isPrefix (hopens hC) rfl)
  · exact .inl (head?_eq_of_isPrefix (hopens hD) rfl)

/-- A line that opens with a level is no line of the header. -/
theorem classify_eq_none_of_level {p : Preamble} (hp : googleLog.preamble = some p) {l : String} {c : Char}
    (hc : l.toList.head? = some c) (hlevel : c = 'I' ∨ c = 'W' ∨ c = 'E' ∨ c = 'F') : p.classify l = none := by
  cases hs : p.pattern.search l with
  | none => simp [Preamble.classify, groupText?, hs]
  | some r =>
    have hm : p.pattern.isMatch l = true := by simp [isMatch, hs]
    obtain ⟨i, j, hspan⟩ := isMatch_sound hm
    have hnot : ∀ x, x = 'L' ∨ x = 'R' → ¬(x = 'I' ∨ x = 'W' ∨ x = 'E' ∨ x = 'F') := by
      rintro x (rfl | rfl) <;> decide
    rcases head_of_spans_preamble hp hspan with h | h <;>
      · rw [hc, Option.some_inj] at h
        exact absurd hlevel (hnot c (by simp [h]))

/-! ## Records -/

/-- A record of a log of year `year`, as the library writes it: its level, the
month and day, a valid date of that year, the time of day to the microsecond,
the thread, the file and line that wrote it, and the message. The file's name
is not empty, holds no colon and no line feed, and opens with neither a space
nor a tab; the message opens with neither, does not end with a line feed,
holds no carriage return, and has no later line that opens a record. -/
structure GoogleRecord (year : Fin 10000) where
  level : Char
  month : Nat
  day : Nat
  hour : Nat
  minute : Nat
  second : Nat
  micros : Nat
  thread : Nat
  file : String
  line : Nat
  message : String
  level_mem : level = 'I' ∨ level = 'W' ∨ level = 'E' ∨ level = 'F'
  date_valid : (Date.mk ((year : Nat) : Int) month day).Valid
  hour_lt : hour < 24
  minute_lt : minute < 60
  second_lt : second < 60
  micros_lt : micros < 1000000
  thread_le : (thread : Int) ≤ Number.int64Max
  line_le : (line : Int) ≤ Number.int64Max
  file_ne : file.toList ≠ []
  file_no_colon : ':' ∉ file.toList
  file_no_lf : '\n' ∉ file.toList
  file_head : ∀ c ∈ file.toList.head?, c ≠ ' ' ∧ c ≠ '\t'
  message_head : ∀ c ∈ message.toList.head?, c ≠ ' ' ∧ c ≠ '\t'
  message_last : message.toList.getLast? ≠ some '\n'
  message_no_cr : '\r' ∉ message.toList
  message_lines : ∀ l ∈ (linesOf message).tail, ¬OpensGoogleRecord l.toList

/-- One letter is taken by a field of one letter. -/
theorem apply_alpha_cons {x : Char} {rest : List Char} (hx : x.isAlpha = true) :
    (Matcher.alpha 1 1).apply (x :: rest) = .ok (.str (String.ofList [x]), rest) :=
  @apply_alpha [x] rest 1 1 (by simpa using hx) (by simp) (by simp) (.inl rfl)

/-- A mapped step that succeeds hands its mapped value on. -/
theorem run_map_bind_of_ok {α β γ : Type} {act : Assembly α} {f : α → β} {g : β → Assembly γ}
    {r r₁ : Record} {x : α} (h : act.run r = .ok (x, r₁)) : ((f <$> act) >>= g).run r = (g (f x)).run r₁ := by
  rw [map_eq_pure_bind, bind_assoc, run_bind_of_ok h, pure_bind]

/-- Padded digits open with neither a space nor a tab. -/
theorem padded_not_blank {w n : Nat} (hw : 0 < w) (hn : n < 10 ^ w) (rest : List Char) :
    ∀ c ∈ ((Text.padded w n).toList ++ rest).head?, c ≠ ' ' ∧ c ≠ '\t' := by
  obtain ⟨d, ds, hd⟩ := List.exists_cons_of_ne_nil
    (List.ne_nil_of_length_pos (by rw [Text.length_padded hw hn]; exact hw))
  have hdigit := Text.isDigit_of_mem_padded (hd ▸ List.mem_cons_self : d ∈ (Text.padded w n).toList)
  rintro c hc
  rw [hd, List.cons_append, List.head?_cons, Option.mem_some_iff] at hc
  subst hc
  constructor <;> (rintro rfl; cases hdigit)

/-- Padded digits, with no blank to skip before them, are read as their number. -/
theorem apply_skip_padded {w n : Nat} (hw : 0 < w) (hw18 : w ≤ 18) (hn : n < 10 ^ w) (rest : List Char) :
    (Matcher.digits w w).apply (skipInlineBlanks ((Text.padded w n).toList ++ rest)) = .ok (.int n, rest) := by
  rw [skipInlineBlanks_of_head (padded_not_blank hw hn rest)]
  exact apply_digits_padded hw hw18 hn rest

/-- The event of a record with a level, a thread, a file, a line, a message and
a time that normalizes. -/
theorem googleLog_toEvent {f : Record} {level file message : String} {thread line : Int} {raw : RawTime}
    {t : Timestamp} (location : Location) (hp : f.get? "priority" = some (.str level))
    (ht : f.get? "thread_identifier" = some (.int thread)) (hf : f.get? "file_name" = some (.str file))
    (hl : f.get? "line_number" = some (.int line)) (hm : f.get? "message" = some (.str message))
    (hw : f.get? "last_written_time" = some (.time raw)) (hn : raw.normalize {} = .ok t) :
    googleLog.emission.toEvent googleLog.name location f googleLog.hints =
      .ok ⟨"google_log", "googlelog:log", location,
        (((((NameMap.empty.insert "priority" (.str level)).insert "thread_identifier" (.int thread)).insert
          "file_name" (.str file)).insert "line_number" (.int line)).insert "message" (.str message)).insert
          "last_written_time" (.timestamp t)⟩ := by
  simp [Emission.toEvent, googleLog, AttributeSpec.value, AttributeSpec.same, hp, ht, hf, hl, hm, hw, hn, bind,
    Except.bind, pure, Except.pure]

namespace GoogleRecord

variable {year : Fin 10000}

/-- What the library writes before the message:
`Lmmdd hh:mm:ss.uuuuuu thread file:line] `. -/
def lead (r : GoogleRecord year) : List Char :=
  r.level :: (Text.padded 2 r.month).toList ++ (Text.padded 2 r.day).toList ++ ' ' ::
    (Text.padded 2 r.hour).toList ++ ':' :: (Text.padded 2 r.minute).toList ++ ':' ::
    (Text.padded 2 r.second).toList ++ '.' :: (Text.padded 6 r.micros).toList ++ ' ' ::
    Nat.toDigits 10 r.thread ++ ' ' :: r.file.toList ++ ':' :: Nat.toDigits 10 r.line ++ [']', ' ']

/-- The lines of a record, without the line feed that ends them. -/
def body (r : GoogleRecord year) : String :=
  String.ofList r.lead ++ r.message

/-- The record the grammar reads from a record's lines. -/
def record (r : GoogleRecord year) : Record :=
  ((((((((((NameMap.empty.insert "priority" (.str (String.ofList [r.level]))).insert "month"
    (.int r.month)).insert "day" (.int r.day)).insert "hour" (.int r.hour)).insert "minute"
    (.int r.minute)).insert "second" (.int r.second)).insert "fraction" (.int r.micros)).insert
    "thread_identifier" (.int r.thread)).insert "file_name" (.str r.file)).insert "line_number"
    (.int r.line)).insert "message" (.str r.message)

/-- Every number of a record fits the places the library writes it in. -/
theorem month_lt (r : GoogleRecord year) : r.month < 10 ^ 2 := by
  have h12 : r.month ≤ 12 := r.date_valid.2.1
  norm_num
  omega

theorem day_lt (r : GoogleRecord year) : r.day < 10 ^ 2 := by
  have hdays : r.day ≤ daysInMonth ((year : Nat) : Int) r.month := r.date_valid.2.2.2
  have := daysInMonth_le ((year : Nat) : Int) r.month
  norm_num
  omega

theorem hour_lt_pow (r : GoogleRecord year) : r.hour < 10 ^ 2 := r.hour_lt.trans_le (by norm_num)

theorem minute_lt_pow (r : GoogleRecord year) : r.minute < 10 ^ 2 := r.minute_lt.trans_le (by norm_num)

theorem second_lt_pow (r : GoogleRecord year) : r.second < 10 ^ 2 := r.second_lt.trans_le (by norm_num)

theorem micros_lt_pow (r : GoogleRecord year) : r.micros < 10 ^ 6 := r.micros_lt.trans_le (by norm_num)

theorem fieldsRead (r : GoogleRecord year) :
    FieldsRead googleLog.grammar.fields r.body.toList NameMap.empty r.record [] := by
  have hcolon : ":".toList = [':'] := rfl
  have hdot : ".".toList = ['.'] := rfl
  have hbracket : "]".toList = [']'] := rfl
  have hlevel : r.level.isAlpha = true ∧ r.level ≠ ' ' ∧ r.level ≠ '\t' := by
    rcases r.level_mem with h | h | h | h <;> rw [h] <;> decide
  simp only [body, lead, String.toList_append, String.toList_ofList, List.cons_append, List.append_assoc,
    List.nil_append]
  -- the level
  apply FieldsRead.cons
  · rw [skipInlineBlanks_of_head (by rintro c ⟨⟩; exact hlevel.2)]
    exact apply_alpha_cons hlevel.1
  -- the date and the time of day, each part in its digits
  apply FieldsRead.cons
  · exact apply_skip_padded (by decide) (by decide) r.month_lt _
  apply FieldsRead.cons
  · exact apply_skip_padded (by decide) (by decide) r.day_lt _
  apply FieldsRead.cons
  · rw [skipInlineBlanks_space]
    exact apply_skip_padded (by decide) (by decide) r.hour_lt_pow _
  apply FieldsRead.cons
  · exact apply_skip_literal_char hcolon (by decide) _
  apply FieldsRead.cons
  · exact apply_skip_padded (by decide) (by decide) r.minute_lt_pow _
  apply FieldsRead.cons
  · exact apply_skip_literal_char hcolon (by decide) _
  apply FieldsRead.cons
  · exact apply_skip_padded (by decide) (by decide) r.second_lt_pow _
  apply FieldsRead.cons
  · exact apply_skip_literal_char hdot (by decide) _
  apply FieldsRead.cons
  · exact apply_skip_padded (by decide) (by decide) r.micros_lt_pow _
  -- the thread, then the file up to its colon and the line
  apply FieldsRead.cons
  · rw [skipInlineBlanks_space, skipInlineBlanks_toDigits]
    exact apply_integer_toDigits (x := ' ') r.thread_le rfl _
  apply FieldsRead.cons
  · rw [skipInlineBlanks_space, skipInlineBlanks_of_head (by
      rw [List.head?_append_of_ne_nil _ r.file_ne]; exact r.file_head)]
    exact apply_until rfl _ r.file_no_colon r.file_ne
  apply FieldsRead.cons
  · exact apply_skip_literal_char hcolon (by decide) _
  apply FieldsRead.cons
  · rw [skipInlineBlanks_toDigits]
    exact apply_integer_toDigits (x := ']') r.line_le rfl _
  apply FieldsRead.cons
  · exact apply_skip_literal_char hbracket (by decide) _
  -- the message, to the end of the record
  apply FieldsRead.cons
  · rw [skipInlineBlanks_space, skipInlineBlanks_of_head r.message_head]
    exact apply_rest true _ (.inl rfl)
  simp only [String.ofList_toList]
  exact .nil _ _

theorem apply_body (r : GoogleRecord year) : googleLog.grammar.apply r.body = .ok r.record :=
  applyFields_of_fieldsRead r.fieldsRead rfl

/-- The calendar tuple of a record's time, dated in the log's year. -/
def tuple (r : GoogleRecord year) : TimeTuple :=
  ⟨((year : Nat) : Int), .number r.month, r.day, r.hour, r.minute, r.second, some ⟨r.micros, 6⟩, none⟩

/-- Read with the year of its log, a record gives its level, thread, file, line
and message, and the tuple of its time. -/
theorem extract_body (r : GoogleRecord year) :
    ∃ fields, googleLog.grammar.extract r.body (some ((year : Nat) : Int)) = .ok fields ∧
      fields.get? "priority" = some (.str (String.ofList [r.level])) ∧
      fields.get? "thread_identifier" = some (.int r.thread) ∧
      fields.get? "file_name" = some (.str r.file) ∧
      fields.get? "line_number" = some (.int r.line) ∧
      fields.get? "message" = some (.str r.message) ∧
      fields.get? "last_written_time" = some (.time (.tuple r.tuple)) := by
  have hmonth : r.month ≤ 12 := r.date_valid.2.1
  have hday := r.day_lt
  have hhour := r.hour_lt
  have hminute := r.minute_lt
  have hsecond := r.second_lt
  have hmicros := r.micros_lt
  rw [extract_of_apply_ok r.apply_body]
  simp only [googleLog, List.foldlM_cons, List.foldlM_nil, assembleInto_eq, TimeField.assemble,
    TupleLayout.takeYear, TupleLayout.takeFraction, pure_bind]
  -- the components, each taken out of what the one before left
  have h1 : (takeMonth "last_written_time" "month").run r.record =
      .ok (.number r.month, r.record.erase "month") := by
    rw [run_takeMonth]
    simp [record]
    omega
  rw [run_bind_of_ok h1]
  set r1 := r.record.erase "month" with hr1
  have h2 : (takeWord "last_written_time" "fraction").run r1 = .ok (r.micros, r1.erase "fraction") := by
    simpa using run_takeWord_of_get? (n := r.micros) (by simp [hr1, record]) (by omega)
  rw [run_map_bind_of_ok h2]
  set r2 := r1.erase "fraction" with hr2
  have h3 : (takeWord "last_written_time" "day").run r2 = .ok (r.day, r2.erase "day") := by
    simpa using run_takeWord_of_get? (n := r.day) (by simp [hr2, hr1, record]) (by norm_num at hday; omega)
  rw [run_bind_of_ok h3]
  set r3 := r2.erase "day" with hr3
  have h4 : (takeWord "last_written_time" "hour").run r3 = .ok (r.hour, r3.erase "hour") := by
    simpa using run_takeWord_of_get? (n := r.hour) (by simp [hr3, hr2, hr1, record]) (by omega)
  rw [run_bind_of_ok h4]
  set r4 := r3.erase "hour" with hr4
  have h5 : (takeWord "last_written_time" "minute").run r4 = .ok (r.minute, r4.erase "minute") := by
    simpa using run_takeWord_of_get? (n := r.minute) (by simp [hr4, hr3, hr2, hr1, record]) (by omega)
  rw [run_bind_of_ok h5]
  set r5 := r4.erase "minute" with hr5
  have h6 : (takeWord "last_written_time" "second").run r5 = .ok (r.second, r5.erase "second") := by
    simpa using run_takeWord_of_get? (n := r.second) (by simp [hr5, hr4, hr3, hr2, hr1, record]) (by omega)
  rw [run_bind_of_ok h6]
  refine ⟨_, rfl, ?_, ?_, ?_, ?_, ?_, ?_⟩ <;> simp [hr5, hr4, hr3, hr2, hr1, record, tuple]

/-- The wall-clock reading of a record. -/
def reading (r : GoogleRecord year) : DateTime :=
  ⟨⟨((year : Nat) : Int), r.month, r.day⟩, r.hour, r.minute, r.second, r.micros⟩

theorem reading_valid (r : GoogleRecord year) : r.reading.Valid := by
  have := r.hour_lt
  have := r.minute_lt
  have := r.second_lt
  exact ⟨r.date_valid, by simp only [reading]; omega, by simp only [reading]; omega,
    by simp only [reading]; omega, r.micros_lt⟩

/-- A year of four digits is representable. -/
theorem yearRepresentable_year : yearRepresentable ((year : Nat) : Int) = true := by
  have := year.isLt
  simp only [yearRepresentable, Bool.and_eq_true, decide_eq_true_eq]
  omega

theorem representable_reading (r : GoogleRecord year) :
    Representable (r.reading.micros * Resolution.micros.microsPerUnit) := by
  rw [Resolution.microsPerUnit, Int.mul_one]
  exact DateTime.representable_micros r.reading_valid yearRepresentable_year

/-- The time a record was written: its wall-clock reading, to the microsecond. -/
def stamp (r : GoogleRecord year) : Timestamp :=
  .ofRepresentable .micros r.reading.micros true r.representable_reading

/-- A record's time normalizes to its local reading, to the microsecond. -/
theorem normalize_tuple (r : GoogleRecord year) : RawTime.normalize {} (.tuple r.tuple) = .ok r.stamp := by
  have hread : r.tuple.Readable .english r.month r.micros :=
    { resolves := rfl
      fractionMicros := by
        show Fraction.toMicros ⟨r.micros, 6⟩ = _
        have := r.micros_lt
        rw [Fraction.toMicros_eq, if_pos ⟨by norm_num, by norm_num, by norm_num; omega⟩]
        simp
      valid := r.reading_valid
      inRange := yearRepresentable_year }
  show r.tuple.normalize .english = _
  rw [TimeTuple.normalize_of_readable hread]
  exact stamp_of_representable true r.representable_reading

/-- The event of a record at line `n`: its level, thread, file, line and
message, and the time it was written. -/
def event (r : GoogleRecord year) (n : Nat) : Event :=
  ⟨"google_log", "googlelog:log", .line n,
    (((((NameMap.empty.insert "priority" (.str (String.ofList [r.level]))).insert "thread_identifier"
      (.int r.thread)).insert "file_name" (.str r.file)).insert "line_number" (.int r.line)).insert
      "message" (.str r.message)).insert "last_written_time" (.timestamp r.stamp)⟩

/-! ### A record as a unit of the log -/

/-- What comes before the message holds no line feed. -/
theorem lineFeed_not_mem_lead (r : GoogleRecord year) : '\n' ∉ r.lead := by
  have hlevel : '\n' ≠ r.level := by
    rcases r.level_mem with h | h | h | h <;> rw [h] <;> decide
  simp [lead, not_mem_padded_of_not_isDigit (x := '\n') rfl, not_mem_toDigits_ten_of_not_isDigit (x := '\n') rfl,
    hlevel, r.file_no_lf]

/-- What comes before the message ends with a space. -/
theorem getLast?_lead (r : GoogleRecord year) : r.lead.getLast? = some ' ' := by
  unfold lead
  rw [List.getLast?_append]
  rfl

/-- The lines of a record: what comes before the message with the message's
first line, then the message's other lines. -/
theorem linesOf_body (r : GoogleRecord year) {l : String} {rest : List String}
    (h : linesOf r.message = l :: rest) : linesOf r.body = (String.ofList r.lead ++ l) :: rest :=
  linesOf_append (by simpa using r.lineFeed_not_mem_lead) h

/-- No line of a record ends with a carriage return: the first ends as the
message's first line does, or with the space before it, and the message has none. -/
theorem getLast?_lines_body (r : GoogleRecord year) : ∀ l ∈ linesOf r.body, l.toList.getLast? ≠ some '\r' := by
  obtain ⟨l0, rest, hm⟩ := exists_linesOf r.message
  have hmessage : ∀ l ∈ linesOf r.message, l.toList.getLast? ≠ some '\r' := fun l hl hlast =>
    r.message_no_cr ((lineFeed_not_mem_of_mem_linesOf hl).2 (List.mem_of_getLast? hlast))
  intro l hl
  rw [r.linesOf_body hm, List.mem_cons] at hl
  rcases hl with rfl | hl
  · rw [String.toList_append, String.toList_ofList, List.getLast?_append, r.getLast?_lead]
    cases hlast : l0.toList.getLast? with
    | none => simp
    | some x => simpa [hlast] using hmessage l0 (by simp [hm])
  · exact hmessage l (by simp [hm, hl])

/-- `n` padded digits are `n` decimal digits. -/
theorem decimalDigits_padded {w n : Nat} (hw : 0 < w) (hn : n < 10 ^ w) :
    DecimalDigits w (Text.padded w n).toList :=
  ⟨Text.length_padded hw hn, fun _ hc => isDecimalDigit_of_isDigit (Text.isDigit_of_mem_padded hc)⟩

/-- Under the log's boundary, the lines of a record make one record: its first
line opens with the level and the time, and no later line of the message opens one. -/
theorem isRecord_body (r : GoogleRecord year) : IsRecord (seqs googleRecordStart) r.body := by
  obtain ⟨l0, rest, hm⟩ := exists_linesOf r.message
  have hspace : isWhiteSpace r.level = false := by
    rcases r.level_mem with h | h | h | h <;> rw [h] <;> decide
  refine ⟨fun l hl => ?_, fun l hl => ?_, ?_⟩
  · rw [r.linesOf_body hm, List.head?_cons, Option.mem_some_iff] at hl
    subst hl
    refine ⟨by simp [Text.isBlank, String.toList_append, lead, hspace], isMatch_of_opensGoogleRecord ?_⟩
    -- the level, the date and the time of day, then the rest of the line
    have hdate : DecimalDigits 4 ((Text.padded 2 r.month).toList ++ (Text.padded 2 r.day).toList) := by
      obtain ⟨hl1, hd1⟩ := decimalDigits_padded (by decide) r.month_lt
      obtain ⟨hl2, hd2⟩ := decimalDigits_padded (by decide) r.day_lt
      refine ⟨by simp [hl1, hl2], fun c hc => ?_⟩
      rcases List.mem_append.mp hc with hc | hc
      · exact hd1 c hc
      · exact hd2 c hc
    exact ⟨r.level, _, _, _, _, _, ' ' :: Nat.toDigits 10 r.thread ++ ' ' :: r.file.toList ++ ':' ::
      Nat.toDigits 10 r.line ++ ']' :: ' ' :: l0.toList, by simp [lead, String.toList_append], r.level_mem, hdate,
      decimalDigits_padded (by decide) r.hour_lt_pow, decimalDigits_padded (by decide) r.minute_lt_pow,
      decimalDigits_padded (by decide) r.second_lt_pow, decimalDigits_padded (by decide) r.micros_lt_pow⟩
  · -- a later line is a later line of the message
    rw [r.linesOf_body hm, List.tail_cons] at hl
    have hlater : l ∈ (linesOf r.message).tail := by rw [hm]; exact hl
    cases hmatch : (seqs googleRecordStart).isMatch l with
    | false => rfl
    | true => exact absurd ((isMatch_googleRecordStart_iff l).mp hmatch) (r.message_lines l hlater)
  · -- the record ends as the message does, or with the space before it
    rw [body, String.toList_append, String.toList_ofList, List.getLast?_append]
    cases hlast : r.message.toList.getLast? with
    | none => simp [r.getLast?_lead]
    | some x => simpa [hlast] using r.message_last

/-- The first line of a record is no line of the header. -/
theorem classify_first_line (r : GoogleRecord year) {p : Preamble} (hp : googleLog.preamble = some p)
    {l : String} (hl : l ∈ (linesOf r.body).head?) : p.classify l = none := by
  obtain ⟨l0, rest, hm⟩ := exists_linesOf r.message
  rw [r.linesOf_body hm, List.head?_cons, Option.mem_some_iff] at hl
  subst hl
  exact classify_eq_none_of_level hp (by simp [String.toList_append, lead]) r.level_mem

/-- A record takes as many lines as its message. -/
theorem lineCount_body (r : GoogleRecord year) : lineCount r.body = lineCount r.message := by
  rw [← length_linesOf, ← length_linesOf]
  obtain ⟨l0, rest, hm⟩ := exists_linesOf r.message
  rw [r.linesOf_body hm, hm, List.length_cons, List.length_cons]

/-- A record read as a unit at line `n`, with the year of its log, makes the
record's event. -/
theorem makesEvent_body (r : GoogleRecord year) (n : Nat) :
    googleLog.MakesEvent (some ((year : Nat) : Int)) ⟨n, r.body, true⟩ (r.event n) := by
  obtain ⟨fields, hx, hp, ht, hf, hl, hm, hw⟩ := r.extract_body
  exact ⟨rfl, fields, hx, googleLog_toEvent (.line n) hp ht hf hl hm hw r.normalize_tuple⟩

end GoogleRecord

/-! ## A log -/

/-- A log file: the date it was created, the further lines of its header, and
its records, of the year it was created. -/
structure GoogleLogFile where
  creation : GoogleCreation
  header : List GoogleHeaderLine
  records : List (GoogleRecord creation.year)

namespace GoogleLogFile

/-- The lines of the header: the date the file was created, then the further lines. -/
def headerLines (g : GoogleLogFile) : List String :=
  g.creation.line :: g.header.map GoogleHeaderLine.line

/-- The text the library writes: the lines of the header, then the records, each
ended by a line feed. -/
def text (g : GoogleLogFile) : String :=
  String.join ((g.headerLines ++ g.records.map GoogleRecord.body).map (· ++ "\n"))

/-- The line at which the `i`-th record opens: after the header and the lines
of the records before it. -/
def recordLine (g : GoogleLogFile) (i : Nat) : Nat :=
  2 + g.header.length + ((g.records.take i).map fun r => lineCount r.message).sum

end GoogleLogFile

/-- A log scans without a warning into the event of each of its records, in
order, each at the record's first line and dated by the year the header gives,
whatever year the scan is given: the level, the thread, the file and line, the
message, and the time to the microsecond, local. -/
theorem googleLog_scan_events (year : Option Int) (g : GoogleLogFile) :
    ∃ scan, googleLog.scan year (LineSource.ofBytes g.text.toUTF8.toList) = .ok scan ∧
      scan.collected.events.toList = g.records.zipIdx.map (fun p => p.1.event (g.recordLine p.2)) ∧
      scan.collected.warnings = #[] := by
  obtain ⟨p, hp⟩ : ∃ p, googleLog.preamble = some p := ⟨_, googleLog_preamble⟩
  have hhead : ∀ h ∈ g.headerLines, '\n' ∉ h.toList ∧ '\r' ∉ h.toList ∧ (p.classify h).isSome := by
    simp only [GoogleLogFile.headerLines, List.mem_cons, List.mem_map]
    rintro h (rfl | ⟨l, -, rfl⟩)
    · exact ⟨g.creation.breaks_not_mem_line.1, g.creation.breaks_not_mem_line.2,
        by simp [g.creation.classify_line hp]⟩
    · exact ⟨l.breaks_not_mem_line.1, l.breaks_not_mem_line.2, by simp [l.classify_line hp]⟩
  have hfirst : ∀ r ∈ (g.records.map GoogleRecord.body).head?, ∀ l ∈ (linesOf r).head?,
      p.classify l = none := by
    intro r hr l hl
    obtain ⟨r, -, rfl⟩ : ∃ x ∈ g.records.head?, x.body = r := by simpa using hr
    exact r.classify_first_line hp hl
  have hbom : ∀ r ∈ (g.headerLines ++ g.records.map GoogleRecord.body).head?,
      r.toList.head? ≠ some '\uFEFF' := by
    intro r hr
    simp only [GoogleLogFile.headerLines, List.cons_append, List.head?_cons, Option.mem_some_iff] at hr
    subst hr
    simp [GoogleCreation.toList_line]
  obtain ⟨hseg, hyear⟩ := googleLog.segment_preamble_records hp rfl year g.headerLines
    (g.records.map GoogleRecord.body) hhead (by simpa using fun r _ => r.isRecord_body)
    (by simpa using fun r _ => r.getLast?_lines_body) hfirst hbom
  -- only the first line of the header carries a year, the year the records are dated by
  have hdate : (g.headerLines.filterMap fun h => (p.classify h).join) = [((g.creation.year : Nat) : Int)] := by
    simp [GoogleLogFile.headerLines, g.creation.classify_line hp, fun l : GoogleHeaderLine => l.classify_line hp]
  have hunits : recordUnits (1 + g.headerLines.length) (g.records.map GoogleRecord.body) =
      g.records.zipIdx.map fun p => ⟨g.recordLine p.2, p.1.body, true⟩ := by
    rw [recordUnits_eq_zipIdx, List.zipIdx_map, List.map_map]
    refine List.map_congr_left fun p _ => ?_
    simp [GoogleLogFile.recordLine, GoogleLogFile.headerLines, List.map_take, Function.comp_def,
      GoogleRecord.lineCount_body]
    omega
  have hmakes : List.Forall₂
      (googleLog.MakesEvent (googleLog.preambleYear year (LineSource.ofBytes g.text.toUTF8.toList).pending))
      (googleLog.segment (LineSource.ofBytes g.text.toUTF8.toList).pending)
      (g.records.zipIdx.map fun p => p.1.event (g.recordLine p.2)) := by
    rw [show (LineSource.ofBytes g.text.toUTF8.toList).pending = splitLines g.text.toUTF8.toList from rfl,
      GoogleLogFile.text, hseg, hyear, hdate, hunits]
    simp only [List.getLast?_singleton, List.forall₂_map_left_iff, List.forall₂_map_right_iff]
    exact List.forall₂_same.mpr fun p _ => p.1.makesEvent_body _
  obtain ⟨scan, hscan, hev, hwarn, -⟩ := googleLog.scan_of_makesEvent year (Or.inl rfl) hmakes
  exact ⟨scan, hscan, hev, hwarn⟩

end Timeline
