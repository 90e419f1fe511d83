import Mathlib
import Timeline.Proofs.FieldReading
import Timeline.Proofs.PatternMatch
import Timeline.Proofs.RecordLines
import Timeline.Proofs.TextScan
import Timeline.Proofs.TimeTuples
import Timeline.Artifact.Shell
/-!
# Zsh's extended history

Zsh's extended history writes each command as `: start:elapsed;command`, the
start in POSIX seconds and the time it took in seconds, followed by a line
feed; a command may span lines. An entry runs up to the next line that opens
one, `^:\s*\d+:\d+;`.

* The lines that open an entry. `OpensZshEntry` says what such a line is, with
  no pattern: the pattern the history's boundary uses matches a line exactly
  when it opens an entry (`isMatch_zshEntryStart_iff`).
* An entry. `ZshEntry` holds the parts of an entry as zsh writes them; the
  grammar reads its text into a record (`ZshEntry.apply_body`), and what a
  scan hands on for it is its event (`ZshEntry.makesEvent_body`).
* A history. `zshHistory_scan_events` scans the entries written one after the
  other: the scan succeeds without a warning and hands on the event of each
  entry, in order, at its first line.
-/

namespace Timeline

open Time Builtin Pattern Text.Unicode

/-! ## The lines that open an entry -/

/-- No decimal digit of any script is white space. -/
theorem isWhiteSpace_of_isDecimalDigit {c : Char} (h : isDecimalDigit c = true) :
    isWhiteSpace c = false := by
  unfold isDecimalDigit at h
  simp only [isWhiteSpace, inRanges, whiteSpaceRanges, List.any_cons, List.any_nil, Bool.or_false,
    Bool.or_eq_false_iff, Bool.and_eq_false_iff, decide_eq_false_iff_not, Nat.not_le]
  split at h
  · -- an ASCII digit is no ASCII blank
    have := Text.toNat_of_isDigit h
    omega
  · simp only [inRanges, decimalDigitRanges, List.any_cons, List.any_nil, Bool.or_false,
      Bool.or_eq_true, Bool.and_eq_true, decide_eq_true_eq] at h
    omega

/-- A line that opens an entry of the history: a colon, any white space, a run
of decimal digits, a colon, a run of decimal digits and a semicolon, then
anything. -/
def OpensZshEntry (line : List Char) : Prop :=
  ∃ blanks first second rest, line = ':' :: blanks ++ first ++ ':' :: second ++ ';' :: rest ∧
    (∀ c ∈ blanks, isWhiteSpace c = true) ∧
    first ≠ [] ∧ (∀ c ∈ first, isDecimalDigit c = true) ∧
    second ≠ [] ∧ (∀ c ∈ second, isDecimalDigit c = true)

theorem zshEntryStart_eq :
    zshEntryStart false = seqs [.start, .char ':', .rep (.cls .space) 0 none, .rep (.cls .digit) 1 none,
      .char ':', .rep (.cls .digit) 1 none, .char ';'] := rfl

/-- A line that opens an entry is matched from its start. -/
theorem isMatch_of_opensZshEntry {s : String} (h : OpensZshEntry s.toList) :
    (zshEntryStart false).isMatch s = true := by
  obtain ⟨blanks, first, second, rest, hs, hblanks, hne1, hfirst, hne2, hsecond⟩ := h
  -- what is left of the line after each part of the pattern
  have d0 : s.toList.drop 0 = ':' :: (blanks ++ (first ++ (':' :: (second ++ (';' :: rest))))) := by
    simpa using hs
  have d1 := drop_succ_of_cons d0
  have d2 := drop_add_length d1
  have d3 := drop_add_length d2
  have d4 := drop_succ_of_cons d3
  have d5 := drop_add_length d4
  have hcolon : CharClass.accepts .digit ':' = false := by decide
  have hsemi : CharClass.accepts .digit ';' = false := by decide
  apply @isMatch_of_matchFrom_zero _ _ (0 + 1 + blanks.length + first.length + 1 + second.length + 1, [])
  rw [matchFrom, zshEntryStart_eq, run_seqs_cons _ (by simp), run_start, run_seqs_cons _ (by simp),
    run_char_of_drop d0, run_seqs_cons _ (by simp)]
  -- the white space, up to the first digit
  refine run_rep_cls_of_drop d1 hblanks (Nat.zero_le _) (.inr ⟨rfl, ?_⟩) ?_
  · obtain ⟨c, cs, rfl⟩ := List.exists_cons_of_ne_nil hne1
    simpa [CharClass.accepts] using isWhiteSpace_of_isDecimalDigit (hfirst c List.mem_cons_self)
  rw [run_seqs_cons _ (by simp)]
  -- the start, up to the colon
  refine run_rep_cls_of_drop d2 hfirst (List.length_pos_iff.mpr hne1) (.inr ⟨rfl, by simpa using hcolon⟩) ?_
  rw [run_seqs_cons _ (by simp), run_char_of_drop d3, run_seqs_cons _ (by simp)]
  -- the time taken, up to the semicolon
  refine run_rep_cls_of_drop d4 hsecond (List.length_pos_iff.mpr hne2) (.inr ⟨rfl, by simpa using hsemi⟩) ?_
  rw [seqs, run_char_of_drop d5]

/-- A line that the pattern matches opens an entry. -/
theorem opensZshEntry_of_isMatch {s : String} (h : (zshEntryStart false).isMatch s = true) :
    OpensZshEntry s.toList := by
  obtain ⟨i, j, hspan⟩ := isMatch_sound h
  rw [zshEntryStart_eq] at hspan
  simp only [seqs] at hspan
  -- the span of each part of the pattern, from the start of the line
  obtain ⟨p0, h0, hspan⟩ := spans_seq_iff.mp hspan
  obtain ⟨rfl, rfl⟩ := spans_start_iff.mp h0
  obtain ⟨p1, h1, hspan⟩ := spans_seq_iff.mp hspan
  obtain ⟨hc0, rfl⟩ := spans_char_iff.mp h1
  obtain ⟨p2, h2, hspan⟩ := spans_seq_iff.mp hspan
  obtain ⟨hlen0, hb⟩ := h2.rep_cls rfl
  obtain ⟨p3, h3, hspan⟩ := spans_seq_iff.mp hspan
  obtain ⟨hlen1, hf⟩ := h3.rep_cls rfl
  obtain ⟨p4, h4, hspan⟩ := spans_seq_iff.mp hspan
  obtain ⟨hc1, rfl⟩ := spans_char_iff.mp h4
  obtain ⟨p5, h5, h6⟩ := spans_seq_iff.mp hspan
  obtain ⟨hlen2, hs⟩ := h5.rep_cls rfl
  obtain ⟨hc2, -⟩ := spans_char_iff.mp h6
  simp only [List.getElem?_toArray] at hc0 hc1 hc2 hb hf hs
  -- the pieces of the line between them
  obtain ⟨blanks, e1, -, hbw⟩ := exists_segment (by omega) hb
  obtain ⟨first, e2, hl1, hfd⟩ := exists_segment (by omega) hf
  obtain ⟨second, e3, hl2, hsd⟩ := exists_segment (by omega) hs
  have e0 := drop_eq_cons_of_getElem? hc0
  have e4 := drop_eq_cons_of_getElem? hc1
  have e5 := drop_eq_cons_of_getElem? hc2
  refine ⟨blanks, first, second, s.toList.drop (p5 + 1), ?_, fun c hc => by simpa [CharClass.accepts] using hbw c hc,
    List.ne_nil_of_length_pos (by omega), fun c hc => by simpa [CharClass.accepts] using hfd c hc,
    List.ne_nil_of_length_pos (by omega), fun c hc => by simpa [CharClass.accepts] using hsd c hc⟩
  calc s.toList = s.toList.drop 0 := rfl
    _ = ':' :: blanks ++ first ++ ':' :: second ++ ';' :: s.toList.drop (p5 + 1) := by
      rw [e0, e1, e2, e4, e3, e5]
      simp

/-- The pattern that opens an entry matches a line exactly when it opens an entry. -/
theorem isMatch_zshEntryStart_iff (s : String) :
    (zshEntryStart false).isMatch s = true ↔ OpensZshEntry s.toList :=
  ⟨opensZshEntry_of_isMatch, isMatch_of_opensZshEntry⟩

/-! ## Entries -/

/-- An entry of the history as zsh writes it: the start of the command in POSIX
seconds, at most the last second a timestamp holds; the seconds it took, within
64 bits; and the command, which opens with neither a space nor a tab, does not
end with a line feed, holds no carriage return, and has no later line that
opens an entry. -/
structure ZshEntry where
  start : Nat
  elapsed : Nat
  command : String
  start_le : (start : Int) ≤ maxSeconds
  elapsed_le : (elapsed : Int) ≤ Number.int64Max
  command_head : ∃ c, command.toList.head? = some c ∧ c ≠ ' ' ∧ c ≠ '\t'
  command_last : command.toList.getLast? ≠ some '\n'
  command_no_cr : '\r' ∉ command.toList
  command_lines : ∀ l ∈ (linesOf command).tail, ¬OpensZshEntry l.toList

/-- The event of a record with a command, the seconds it took and a start
whose time normalizes. -/
theorem zshExtendedHistory_toEvent {r : Record} {command : String} {elapsed : Int} {raw : RawTime}
    {t : Timestamp} (location : Location) (hc : r.get? "command" = some (.str command))
    (he : r.get? "elapsed_seconds" = some (.int elapsed)) (ht : r.get? "timestamp" = some (.time raw))
    (hn : raw.normalize {} = .ok t) :
    zshExtendedHistory.emission.toEvent zshExtendedHistory.name location r zshExtendedHistory.hints =
      .ok ⟨"zsh_extended_history", "shell:zsh:history", location,
        ((NameMap.empty.insert "command" (.str command)).insert "elapsed_seconds" (.int elapsed)).insert
          "last_written_time" (.timestamp t)⟩ := by
  simp [Emission.toEvent, zshExtendedHistory, AttributeSpec.value, AttributeSpec.same, hc, he, ht, hn, bind,
    Except.bind, pure, Except.pure]

namespace ZshEntry

/-- What zsh writes before the command: `: start:elapsed;`. -/
def stampText (e : ZshEntry) : String :=
  ": " ++ e.start.repr ++ ":" ++ e.elapsed.repr ++ ";"

/-- The lines of an entry, without the line feed that ends them. -/
def body (e : ZshEntry) : String :=
  e.stampText ++ e.command

/-- The text zsh writes for an entry. -/
def text (e : ZshEntry) : String :=
  e.body ++ "\n"

/-- The record the grammar reads from an entry. -/
def record (e : ZshEntry) : Record :=
  ((NameMap.empty.insert "timestamp" (.int e.start)).insert "elapsed_seconds" (.int e.elapsed)).insert
    "command" (.str e.command)

theorem representable_start (e : ZshEntry) :
    Representable (e.start * Resolution.seconds.microsPerUnit) := by
  have := e.start_le
  simp only [Representable, Resolution.microsPerUnit, minMicros, maxMicros, minSeconds, maxSeconds] at this ⊢
  omega

/-- The start of an entry as a timestamp: whole seconds, not local. -/
def stamp (e : ZshEntry) : Timestamp :=
  .ofRepresentable .seconds e.start false e.representable_start

/-- The event of an entry at line `n`: the command, the seconds it took, and
the time it was written. -/
def event (e : ZshEntry) (n : Nat) : Event :=
  ⟨"zsh_extended_history", "shell:zsh:history", .line n,
    ((NameMap.empty.insert "command" (.str e.command)).insert "elapsed_seconds" (.int e.elapsed)).insert
      "last_written_time" (.timestamp e.stamp)⟩

theorem toList_stampText (e : ZshEntry) :
    e.stampText.toList = ':' :: ' ' :: Nat.toDigits 10 e.start ++ ':' :: Nat.toDigits 10 e.elapsed ++ [';'] := by
  have h1 : ": ".toList = [':', ' '] := rfl
  have h2 : ":".toList = [':'] := rfl
  have h3 : ";".toList = [';'] := rfl
  simp [stampText, String.toList_append, Nat.toList_repr, h1, h2, h3]

theorem toList_body (e : ZshEntry) :
    e.body.toList =
      ':' :: ' ' :: Nat.toDigits 10 e.start ++ ':' :: Nat.toDigits 10 e.elapsed ++ ';' :: e.command.toList := by
  simp [body, String.toList_append, toList_stampText]

/-! ## Reading an entry -/

theorem fieldsRead (e : ZshEntry) :
    FieldsRead zshExtendedHistory.grammar.fields e.body.toList NameMap.empty e.record [] := by
  obtain ⟨c, hc, hs, ht⟩ := e.command_head
  have hcolon : ":".toList = [':'] := rfl
  have hsemi : ";".toList = [';'] := rfl
  have hstart : (e.start : Int) ≤ Number.int64Max := by
    have := e.start_le
    simp only [maxSeconds, Number.int64Max] at this ⊢
    omega
  rw [toList_body]
  simp only [List.cons_append, List.append_assoc]
  -- the colon that opens the entry
  apply FieldsRead.cons
  · exact apply_skip_literal_char hcolon (by decide) _
  -- the start, after a space
  apply FieldsRead.cons
  · rw [skipInlineBlanks_space, skipInlineBlanks_toDigits]
    exact apply_integer_toDigits hstart (by decide) _
  apply FieldsRead.cons
  · exact apply_skip_literal_char hcolon (by decide) _
  -- the seconds it took
  apply FieldsRead.cons
  · rw [skipInlineBlanks_toDigits]
    exact apply_integer_toDigits e.elapsed_le (by decide) _
  apply FieldsRead.cons
  · exact apply_skip_literal_char hsemi (by decide) _
  -- the command, to the end of the entry
  apply FieldsRead.cons
  · rw [skipInlineBlanks_of_head (by rw [hc]; simp [hs, ht])]
    exact apply_rest false _ (.inr fun h => by simp [h] at hc)
  rw [String.ofList_toList]
  exact .nil _ _

theorem apply_body (e : ZshEntry) : zshExtendedHistory.grammar.apply e.body = .ok e.record :=
  applyFields_of_fieldsRead e.fieldsRead rfl

theorem extract_body (e : ZshEntry) (year : Option Int) :
    zshExtendedHistory.grammar.extract e.body year =
      .ok ((e.record.erase "timestamp").insert "timestamp" (.time (.epochSeconds e.start))) := by
  have h : (takeInt "timestamp" "timestamp").run e.record = .ok (e.start, e.record.erase "timestamp") := by
    rw [run_takeInt]
    simp [record]
  rw [extract_of_apply_ok e.apply_body]
  simp only [zshExtendedHistory, List.foldlM_cons, List.foldlM_nil, assembleInto_eq, TimeField.assemble,
    StateT.run_map, h]
  rfl

theorem normalize_start (e : ZshEntry) : RawTime.normalize {} (.epochSeconds e.start) = .ok e.stamp := by
  have hsign : checkSign {} (e.start : Int) = .ok () := by
    simp [checkSign]
  simp only [RawTime.normalize, hsign, stamp_of_representable false e.representable_start]
  rfl

/-- The event of the record read from an entry at line `n` is the entry's event. -/
theorem toEvent_record (e : ZshEntry) (n : Nat) :
    zshExtendedHistory.emission.toEvent zshExtendedHistory.name (.line n)
        ((e.record.erase "timestamp").insert "timestamp" (.time (.epochSeconds e.start)))
        zshExtendedHistory.hints = .ok (e.event n) := by
  set r := (e.record.erase "timestamp").insert "timestamp" (.time (.epochSeconds e.start)) with hr
  have hc : r.get? "command" = some (.str e.command) := by simp [hr, record]
  have he : r.get? "elapsed_seconds" = some (.int e.elapsed) := by simp [hr, record]
  have ht : r.get? "timestamp" = some (.time (.epochSeconds e.start)) := by simp [hr]
  exact zshExtendedHistory_toEvent (.line n) hc he ht e.normalize_start

/-- An entry read as a unit at line `n` makes the entry's event, whatever the year. -/
theorem makesEvent_body (e : ZshEntry) (year : Option Int) (n : Nat) :
    zshExtendedHistory.MakesEvent year ⟨n, e.body, true⟩ (e.event n) :=
  ⟨rfl, _, e.extract_body year, e.toEvent_record n⟩

/-! ## An entry as a record of the history -/

/-- The stamp holds colons, a space, a semicolon and ASCII digits only. -/
theorem mem_stampText {e : ZshEntry} {c : Char} (h : c ∈ e.stampText.toList) :
    c = ':' ∨ c = ' ' ∨ c = ';' ∨ c.isDigit = true := by
  rw [toList_stampText] at h
  simp only [List.mem_cons, List.mem_append] at h
  rcases h with ((h | h | h) | h | h) | h
  · exact .inl h
  · exact .inr (.inl h)
  · exact .inr (.inr (.inr (isDigit_of_mem_toDigits_ten h)))
  · exact .inl h
  · exact .inr (.inr (.inr (isDigit_of_mem_toDigits_ten h)))
  · exact .inr (.inr (.inl (by simpa using h)))

theorem lineFeed_not_mem_stampText (e : ZshEntry) : '\n' ∉ e.stampText.toList := by
  intro h
  rcases mem_stampText h with h | h | h | h <;> simp at h

theorem carriageReturn_not_mem_body (e : ZshEntry) : '\r' ∉ e.body.toList := by
  rw [body, String.toList_append, List.mem_append, not_or]
  refine ⟨fun h => ?_, e.command_no_cr⟩
  rcases mem_stampText h with h | h | h | h <;> simp at h

/-- The first line of an entry opens an entry: the stamp, then the command's first line. -/
theorem opensZshEntry_stampText (e : ZshEntry) (l : String) :
    OpensZshEntry (e.stampText ++ l).toList := by
  refine ⟨[' '], Nat.toDigits 10 e.start, Nat.toDigits 10 e.elapsed, l.toList, ?_,
    by simp [isWhiteSpace, inRanges, whiteSpaceRanges],
    Nat.toDigits_ne_nil, fun c hc => isDecimalDigit_of_isDigit (isDigit_of_mem_toDigits_ten hc),
    Nat.toDigits_ne_nil, fun c hc => isDecimalDigit_of_isDigit (isDigit_of_mem_toDigits_ten hc)⟩
  simp [String.toList_append, toList_stampText]

/-- Under the history's boundary, the lines of an entry make one record. -/
theorem isRecord_body (e : ZshEntry) : IsRecord (zshEntryStart false) e.body := by
  obtain ⟨l, rest, hl⟩ := exists_linesOf e.command
  have hlines : linesOf e.body = (e.stampText ++ l) :: rest :=
    linesOf_append e.lineFeed_not_mem_stampText hl
  obtain ⟨c, hc, hs, ht⟩ := e.command_head
  refine ⟨fun l' hl' => ?_, fun t ht' => ?_, ?_⟩
  · -- the first line opens with the colon of the stamp
    rw [hlines, List.head?_cons, Option.mem_some_iff] at hl'
    subst hl'
    refine ⟨?_, (isMatch_zshEntryStart_iff _).mpr (e.opensZshEntry_stampText l)⟩
    simp [Text.isBlank, String.toList_append, toList_stampText, isWhiteSpace, inRanges, whiteSpaceRanges]
  · -- a later line is a later line of the command
    rw [hlines, List.tail_cons] at ht'
    have hnot := e.command_lines t (by rw [hl]; exact ht')
    cases hm : (zshEntryStart false).isMatch t with
    | false => rfl
    | true => exact absurd ((isMatch_zshEntryStart_iff t).mp hm) hnot
  · -- the command is not empty, so it ends the entry
    have hne : e.command.toList ≠ [] := fun h => by simp [h] at hc
    rw [body, String.toList_append, List.getLast?_append_of_ne_nil _ hne]
    exact e.command_last

end ZshEntry

/-! ## A history -/

/-- The text zsh writes for a history: its entries, one after the other. -/
def zshHistoryText (entries : List ZshEntry) : String :=
  String.join (entries.map ZshEntry.text)

/-- The line at which each entry of a history opens: one after the lines of
the entries before it. -/
def zshEntryLine (entries : List ZshEntry) (i : Nat) : Nat :=
  1 + ((entries.take i).map fun e => lineCount e.body).sum

/-- A history scans without a warning into the event of each of its entries,
in order, each at the entry's first line: the command, the seconds it took and
the start as whole POSIX seconds, not local. The year the scan is given plays
no part. -/
theorem zshHistory_scan_events (year : Option Int) (entries : List ZshEntry) :
    ∃ scan, zshExtendedHistory.scan year (LineSource.ofBytes (zshHistoryText entries).toUTF8.toList) =
        .ok scan ∧
      scan.collected.events.toList = entries.zipIdx.map (fun p => p.1.event (zshEntryLine entries p.2)) ∧
      scan.collected.warnings = #[] := by
  have htext : zshHistoryText entries = String.join ((entries.map ZshEntry.body).map (· ++ "\n")) := by
    rw [zshHistoryText, List.map_map]
    rfl
  have hbom : ∀ r ∈ (entries.map ZshEntry.body).head?, r.toList.head? ≠ some '\uFEFF' := by
    intro r hr
    obtain ⟨e, -, rfl⟩ : ∃ e ∈ entries.head?, e.body = r := by simpa using hr
    simp [ZshEntry.toList_body]
  have hseg := zshExtendedHistory.segment_records rfl rfl (entries.map ZshEntry.body)
    (by simpa using fun e _ => e.isRecord_body) (by simpa using fun e _ => e.carriageReturn_not_mem_body) hbom
  -- the units are the entries, each at its first line, and each makes the entry's event
  have hunits : recordUnits 1 (entries.map ZshEntry.body) =
      entries.zipIdx.map fun p => ⟨zshEntryLine entries p.2, p.1.body, true⟩ := by
    rw [recordUnits_eq_zipIdx, List.zipIdx_map, List.map_map]
    refine List.map_congr_left fun p _ => ?_
    simp [zshEntryLine, List.map_take, Function.comp_def]
  have hmakes : List.Forall₂
      (zshExtendedHistory.MakesEvent (zshExtendedHistory.preambleYear year
        (LineSource.ofBytes (zshHistoryText entries).toUTF8.toList).pending))
      (zshExtendedHistory.segment (LineSource.ofBytes (zshHistoryText entries).toUTF8.toList).pending)
      (entries.zipIdx.map fun p => p.1.event (zshEntryLine entries p.2)) := by
    rw [show (LineSource.ofBytes (zshHistoryText entries).toUTF8.toList).pending =
      splitLines (zshHistoryText entries).toUTF8.toList from rfl, htext, hseg, hunits]
    simp only [List.forall₂_map_left_iff, List.forall₂_map_right_iff]
    exact List.forall₂_same.mpr fun p _ => p.1.makesEvent_body _ _
  obtain ⟨scan, hscan, hev, hwarn, -⟩ := zshExtendedHistory.scan_of_makesEvent year (Or.inl rfl) hmakes
  exact ⟨scan, hscan, hev, hwarn⟩

end Timeline
