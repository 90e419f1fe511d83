import Mathlib
import Timeline.Proofs.EpochTimes
import Timeline.Proofs.FieldReading
import Timeline.Proofs.PatternMatch
import Timeline.Proofs.RecordLines
import Timeline.Artifact.Shell
/-!
# Fish's history

Fish writes its history as a list of entries, each of the form

    - cmd: command
      when: seconds
      paths:
        - path

where the block of paths is left out when the command named none. An entry
opens at a line that begins with `- cmd:` and runs up to the next such line.

* An entry. `FishEntry` holds the parts of an entry as fish writes them, and
  `FishEntry.lines` its lines; every later line of an entry is indented, so it
  never opens an entry (`FishEntry.isRecord_body`).
* Reading an entry. The grammar takes the command up to the line feed, crosses
  it, takes the seconds and leaves the paths unread (`FishEntry.fieldsRead`);
  the entry makes an event with the command and the time it was written
  (`FishEntry.makesEvent_body`).
* A history. `fishHistory_scan_events` scans the entries written one after
  the other: the scan succeeds without a warning and hands on the event of each
  entry, in order, at the line of its command.
-/

namespace Timeline

open Time Builtin Pattern Text.Unicode

/-- An entry of fish's history: the command, the POSIX second it was written,
at most the last second a timestamp holds, and the paths it named. The command
is not empty, opens with neither a space nor a tab, and has no line feed or
carriage return; nor has any path. -/
structure FishEntry where
  command : String
  written : Nat
  paths : List String
  written_le : (written : Int) ≤ maxSeconds
  command_head : ∃ c, command.toList.head? = some c ∧ c ≠ ' ' ∧ c ≠ '\t'
  command_no_lf : '\n' ∉ command.toList
  command_no_cr : '\r' ∉ command.toList
  path_no_lf : ∀ p ∈ paths, '\n' ∉ p.toList
  path_no_cr : ∀ p ∈ paths, '\r' ∉ p.toList

/-- The boundary of fish's entries: a line that begins with `- cmd:`. -/
theorem fishHistory_boundary :
    fishHistory.grammar.boundary = .lookahead (seqs [.start, text "- cmd:"]) := rfl

/-- The event of a record with a command and a time that normalizes. -/
theorem fishHistory_toEvent {r : Record} {command : String} {raw : RawTime} {t : Timestamp}
    (location : Location) (hc : r.get? "command" = some (.str command))
    (ht : r.get? "written_time" = some (.time raw)) (hn : raw.normalize {} = .ok t) :
    fishHistory.emission.toEvent fishHistory.name location r fishHistory.hints =
      .ok ⟨"fish_history", "fish:history:entry", location,
        (NameMap.empty.insert "command" (.str command)).insert "written_time" (.timestamp t)⟩ := by
  simp [Emission.toEvent, fishHistory, AttributeSpec.value, AttributeSpec.same, hc, ht, hn, bind,
    Except.bind, pure, Except.pure]

namespace FishEntry

/-- The text fish writes for an entry. -/
def text (e : FishEntry) : String :=
  "- cmd: " ++ e.command ++ "\n" ++ "  when: " ++ e.written.repr ++ "\n" ++
    (if e.paths = [] then "" else "  paths:\n" ++ String.join (e.paths.map fun p => "    - " ++ p ++ "\n"))

/-- The lines of the block of paths. -/
def pathLines (e : FishEntry) : List String :=
  "  paths:" :: e.paths.map ("    - " ++ ·)

/-- The lines of an entry: the command, the time, and the paths when there are any. -/
def lines (e : FishEntry) : List String :=
  ("- cmd: " ++ e.command) :: ("  when: " ++ e.written.repr) :: (if e.paths = [] then [] else e.pathLines)

/-- The lines of an entry, joined by line feeds. -/
def body (e : FishEntry) : String :=
  "\n".intercalate e.lines

/-- What follows the seconds in an entry: nothing, or a line feed and the paths. -/
def pathsBlock (e : FishEntry) : List Char :=
  if e.paths = [] then [] else '\n' :: ("\n".intercalate e.pathLines).toList

theorem text_eq (e : FishEntry) : e.text = e.body ++ "\n" := by
  rw [body, ← join_map_lineFeed (by simp [lines])]
  by_cases hp : e.paths = []
  · simp only [text, lines, hp, if_true, List.map_cons, List.map_nil, String.join_cons, String.join_nil,
      String.append_assoc, String.append_empty]
  · have hheading : "  paths:\n" = "  paths:" ++ "\n" := rfl
    simp only [text, lines, pathLines, hp, if_false, List.map_cons, List.map_map, String.join_cons,
      String.append_assoc, Function.comp_def, hheading]

theorem toList_body (e : FishEntry) :
    e.body.toList = "- cmd:".toList ++ ' ' :: e.command.toList ++ '\n' :: ' ' :: ' ' :: "when:".toList ++
      ' ' :: Nat.toDigits 10 e.written ++ e.pathsBlock := by
  have h1 : "- cmd: ".toList = "- cmd:".toList ++ [' '] := rfl
  have h2 : "  when: ".toList = ' ' :: ' ' :: "when:".toList ++ [' '] := rfl
  have hsep : "\n".toList = ['\n'] := rfl
  by_cases hp : e.paths = []
  · simp [body, lines, pathsBlock, hp, String.intercalate_cons_cons, String.toList_append, h1, h2, hsep,
      Nat.toList_repr]
  · simp [body, lines, pathsBlock, hp, String.intercalate_cons_cons, pathLines, String.toList_append,
      h1, h2, hsep, Nat.toList_repr]

/-- The record the grammar reads from an entry: the command and the seconds. -/
def record (e : FishEntry) : Record :=
  (NameMap.empty.insert "command" (.str e.command)).insert "when" (.int e.written)

theorem representable_written (e : FishEntry) :
    Representable (e.written * 1000000) := by
  have := e.written_le
  simp only [Representable, minMicros, maxMicros, minSeconds, maxSeconds] at this ⊢
  omega

/-- The time an entry was written: whole seconds, not local. -/
def stamp (e : FishEntry) : Timestamp :=
  .ofRepresentable .seconds e.written false e.representable_written

/-- The event of an entry at line `n`: the command and the time it was written. -/
def event (e : FishEntry) (n : Nat) : Event :=
  ⟨"fish_history", "fish:history:entry", .line n,
    (NameMap.empty.insert "command" (.str e.command)).insert "written_time" (.timestamp e.stamp)⟩

/-! ## Reading an entry -/

theorem fieldsRead (e : FishEntry) :
    FieldsRead fishHistory.grammar.fields e.body.toList NameMap.empty e.record [] := by
  obtain ⟨c, hc, hs, ht⟩ := e.command_head
  have hne : e.command.toList ≠ [] := fun h => by simp [h] at hc
  have hwritten : (e.written : Int) ≤ Number.int64Max := by
    have := e.written_le
    simp only [maxSeconds, Number.int64Max] at this ⊢
    omega
  -- after the seconds comes the end of the entry or the line feed before the paths
  have hblock : ∀ x ∈ e.pathsBlock.head?, x.isDigit = false ∧ x ≠ ' ' ∧ x ≠ '\t' := by
    intro x hx
    by_cases hp : e.paths = []
    · simp [pathsBlock, hp] at hx
    · simp only [pathsBlock, hp, if_false, List.head?_cons, Option.mem_some_iff] at hx
      subst hx
      decide
  rw [toList_body]
  simp only [List.cons_append, List.append_assoc]
  -- the opening `- cmd:`
  apply FieldsRead.cons
  · rw [skipInlineBlanks_of_head (by simp)]
    exact apply_literal "- cmd:" _
  -- the command, up to the line feed that ends its line
  apply FieldsRead.cons
  · rw [skipInlineBlanks_space, skipInlineBlanks_of_head (by rw [List.head?_append_of_ne_nil _ hne, hc]; simp [hs, ht])]
    exact apply_until rfl _ e.command_no_lf hne
  -- the line feed itself
  apply FieldsRead.cons
  · exact apply_skip_literal_char rfl (by decide) _
  -- `when:`, after the indentation
  apply FieldsRead.cons
  · rw [skipInlineBlanks_space, skipInlineBlanks_space, skipInlineBlanks_of_head (by simp)]
    exact apply_literal "when:" _
  -- the seconds
  apply FieldsRead.cons
  · rw [skipInlineBlanks_space, skipInlineBlanks_toDigits]
    exact apply_integer_toDigits_of_head hwritten fun x hx => (hblock x hx).1
  -- the paths, read and left out
  apply FieldsRead.cons
  · rw [skipInlineBlanks_of_head fun x hx => (hblock x hx).2]
    exact apply_rest true _ (.inl rfl)
  simp only [FieldSpec.suppressed, if_true, String.ofList_toList]
  exact .nil _ _

theorem apply_body (e : FishEntry) : fishHistory.grammar.apply e.body = .ok e.record :=
  applyFields_of_fieldsRead e.fieldsRead rfl

theorem extract_body (e : FishEntry) (year : Option Int) :
    fishHistory.grammar.extract e.body year =
      .ok ((e.record.erase "when").insert "written_time" (.time (.epochSeconds e.written))) := by
  have h : (takeInt "written_time" "when").run e.record = .ok (e.written, e.record.erase "when") := by
    rw [run_takeInt]
    simp [record]
  rw [extract_of_apply_ok e.apply_body]
  simp only [fishHistory, List.foldlM_cons, List.foldlM_nil, assembleInto_eq, TimeField.assemble,
    StateT.run_map, h]
  rfl

/-- The event of the record read from an entry at line `n` is the entry's event. -/
theorem toEvent_record (e : FishEntry) (n : Nat) :
    fishHistory.emission.toEvent fishHistory.name (.line n)
        ((e.record.erase "when").insert "written_time" (.time (.epochSeconds e.written)))
        fishHistory.hints = .ok (e.event n) := by
  set r := (e.record.erase "when").insert "written_time" (.time (.epochSeconds e.written)) with hr
  have hc : r.get? "command" = some (.str e.command) := by simp [hr, record]
  have ht : r.get? "written_time" = some (.time (.epochSeconds e.written)) := by simp [hr]
  have hn : RawTime.normalize {} (.epochSeconds e.written) = .ok e.stamp := by
    rw [normalize_epochSeconds, if_neg (by simp), dif_pos e.representable_written]
    rfl
  exact fishHistory_toEvent (.line n) hc ht hn

/-- An entry read as a unit at line `n` makes the entry's event, whatever the year. -/
theorem makesEvent_body (e : FishEntry) (year : Option Int) (n : Nat) :
    fishHistory.MakesEvent year ⟨n, e.body, true⟩ (e.event n) :=
  ⟨rfl, _, e.extract_body year, e.toEvent_record n⟩

/-! ## An entry as a record of the history -/

/-- The lines of an entry: the command's, the time's, the heading of the paths
and a line for each path. -/
theorem mem_lines {e : FishEntry} {l : String} (h : l ∈ e.lines) :
    l = "- cmd: " ++ e.command ∨ l = "  when: " ++ e.written.repr ∨ l = "  paths:" ∨
      ∃ p ∈ e.paths, l = "    - " ++ p := by
  simp only [lines, pathLines, List.mem_cons] at h
  rcases h with rfl | rfl | h
  · exact .inl rfl
  · exact .inr (.inl rfl)
  · split at h
    · simp at h
    · simp only [List.mem_cons, List.mem_map] at h
      rcases h with rfl | ⟨p, hp, rfl⟩
      · exact .inr (.inr (.inl rfl))
      · exact .inr (.inr (.inr ⟨p, hp, rfl⟩))

/-- No line of an entry is empty or holds a line feed or a carriage return. -/
theorem breaks_not_mem_lines (e : FishEntry) :
    ∀ l ∈ e.lines, l.toList ≠ [] ∧ '\n' ∉ l.toList ∧ '\r' ∉ l.toList := by
  have hcmd : "- cmd: ".toList = ['-', ' ', 'c', 'm', 'd', ':', ' '] := rfl
  have hwhen : "  when: ".toList = [' ', ' ', 'w', 'h', 'e', 'n', ':', ' '] := rfl
  have hpaths : "  paths:".toList = [' ', ' ', 'p', 'a', 't', 'h', 's', ':'] := rfl
  have hpath : "    - ".toList = [' ', ' ', ' ', ' ', '-', ' '] := rfl
  -- a digit is neither
  have hdigit : ∀ x ∈ Nat.toDigits 10 e.written, x ≠ '\n' ∧ x ≠ '\r' := by
    intro x hx
    have := isDigit_of_mem_toDigits_ten hx
    constructor <;> rintro rfl <;> simp at this
  intro l hl
  rcases mem_lines hl with rfl | rfl | rfl | ⟨p, hp, rfl⟩
  · simp [String.toList_append, hcmd, e.command_no_lf, e.command_no_cr]
  · simp only [String.toList_append, hwhen, Nat.toList_repr]
    refine ⟨by simp, fun h => ?_, fun h => ?_⟩ <;> simp only [List.mem_append] at h
    · simpa using (h.resolve_left (by simp)) |> hdigit _ |>.1
    · simpa using (h.resolve_left (by simp)) |> hdigit _ |>.2
  · simp [hpaths]
  · simp [String.toList_append, hpath, e.path_no_lf p hp, e.path_no_cr p hp]

/-- Every line of an entry after the first is indented. -/
theorem head?_of_mem_tail_lines (e : FishEntry) : ∀ l ∈ e.lines.tail, l.toList.head? = some ' ' := by
  have hwhen : "  when: ".toList = [' ', ' ', 'w', 'h', 'e', 'n', ':', ' '] := rfl
  have hpath : "    - ".toList = [' ', ' ', ' ', ' ', '-', ' '] := rfl
  intro l hl
  simp only [lines, List.tail_cons, List.mem_cons] at hl
  rcases hl with rfl | hl
  · simp [String.toList_append, hwhen]
  · split at hl
    · simp at hl
    · simp only [pathLines, List.mem_cons, List.mem_map] at hl
      rcases hl with rfl | ⟨p, -, rfl⟩
      · rfl
      · simp [String.toList_append, hpath]

theorem carriageReturn_not_mem_body (e : FishEntry) : '\r' ∉ e.body.toList := by
  intro h
  rcases mem_intercalate_lineFeed h with h | ⟨l, hl, hr⟩
  · exact absurd h (by decide)
  · exact (e.breaks_not_mem_lines l hl).2.2 hr

/-- Under the history's boundary, the lines of an entry make one record. -/
theorem isRecord_body (e : FishEntry) : IsRecord (seqs [.start, Pattern.text "- cmd:"]) e.body := by
  have hcmd : "- cmd: ".toList = "- cmd:".toList ++ [' '] := rfl
  have hlines : linesOf e.body = e.lines :=
    linesOf_intercalate (fun l hl => (e.breaks_not_mem_lines l hl).2.1) (by simp [lines])
  refine ⟨fun l hl => ?_, fun t ht => ?_, ?_⟩
  · -- the command's line opens the entry
    rw [hlines, lines, List.head?_cons, Option.mem_some_iff] at hl
    subst hl
    refine ⟨?_, (isMatch_start_text_iff _ _).mpr ⟨' ' :: e.command.toList, by simp [String.toList_append, hcmd]⟩⟩
    simp [Text.isBlank, String.toList_append, hcmd, isWhiteSpace, inRanges, whiteSpaceRanges]
  · -- an indented line does not begin with `- cmd:`
    rw [hlines] at ht
    have hhead := e.head?_of_mem_tail_lines t ht
    cases hm : (seqs [.start, Pattern.text "- cmd:"]).isMatch t with
    | false => rfl
    | true =>
      obtain ⟨post, hpost⟩ := (isMatch_start_text_iff _ _).mp hm
      rw [← hpost] at hhead
      simp at hhead
  · -- the last line is not empty and has no line feed
    obtain ⟨l, hl⟩ : ∃ l, e.lines.getLast? = some l := ⟨_, List.getLast?_eq_some_getLast (by simp [lines])⟩
    have hmem := List.mem_of_getLast? hl
    obtain ⟨hne, hlf, -⟩ := e.breaks_not_mem_lines l hmem
    rw [body, getLast?_intercalate_lineFeed hl hne]
    exact fun h => hlf (List.mem_of_getLast? h)

end FishEntry

/-! ## A history -/

/-- The text fish writes for a history: its entries, one after the other. -/
def fishHistoryText (entries : List FishEntry) : String :=
  String.join (entries.map FishEntry.text)

/-- The line at which each entry of a history opens, that of its command: one
after the lines of the entries before it. -/
def fishEntryLine (entries : List FishEntry) (i : Nat) : Nat :=
  1 + ((entries.take i).map fun e => e.lines.length).sum

/-- A history scans without a warning into the event of each of its entries,
in order, each at the line of the entry's command: the command and the time it
was written, as whole POSIX seconds, not local. The block of paths is not read,
and the year the scan is given plays no part. -/
theorem fishHistory_scan_events (year : Option Int) (entries : List FishEntry) :
    ∃ scan, fishHistory.scan year (LineSource.ofBytes (fishHistoryText entries).toUTF8.toList) = .ok scan ∧
      scan.collected.events.toList = entries.zipIdx.map (fun p => p.1.event (fishEntryLine entries p.2)) ∧
      scan.collected.warnings = #[] := by
  have htext : fishHistoryText entries = String.join ((entries.map FishEntry.body).map (· ++ "\n")) := by
    rw [fishHistoryText, List.map_map]
    exact congrArg String.join (List.map_congr_left fun e _ => e.text_eq)
  have hbom : ∀ r ∈ (entries.map FishEntry.body).head?, r.toList.head? ≠ some '\uFEFF' := by
    intro r hr
    obtain ⟨e, -, rfl⟩ : ∃ e ∈ entries.head?, e.body = r := by simpa using hr
    simp [FishEntry.toList_body]
  have hseg := fishHistory.segment_records rfl fishHistory_boundary (entries.map FishEntry.body)
    (by simpa using fun e _ => e.isRecord_body) (by simpa using fun e _ => e.carriageReturn_not_mem_body) hbom
  -- the units are the entries, each at its first line, and each makes the entry's event
  have hcount : ∀ e : FishEntry, lineCount e.body = e.lines.length := fun e => by
    rw [← length_linesOf, FishEntry.body,
      linesOf_intercalate (fun l hl => (e.breaks_not_mem_lines l hl).2.1) (by simp [FishEntry.lines])]
  have hunits : recordUnits 1 (entries.map FishEntry.body) =
      entries.zipIdx.map fun p => ⟨fishEntryLine entries p.2, p.1.body, true⟩ := by
    rw [recordUnits_eq_zipIdx, List.zipIdx_map, List.map_map]
    refine List.map_congr_left fun p _ => ?_
    simp [fishEntryLine, List.map_take, Function.comp_def, hcount]
  have hmakes : List.Forall₂
      (fishHistory.MakesEvent (fishHistory.preambleYear year
        (LineSource.ofBytes (fishHistoryText entries).toUTF8.toList).pending))
      (fishHistory.segment (LineSource.ofBytes (fishHistoryText entries).toUTF8.toList).pending)
      (entries.zipIdx.map fun p => p.1.event (fishEntryLine entries p.2)) := by
    rw [show (LineSource.ofBytes (fishHistoryText entries).toUTF8.toList).pending =
      splitLines (fishHistoryText entries).toUTF8.toList from rfl, htext, hseg, hunits]
    simp only [List.forall₂_map_left_iff, List.forall₂_map_right_iff]
    exact List.forall₂_same.mpr fun p _ => p.1.makesEvent_body _ _
  obtain ⟨scan, hscan, hev, hwarn, -⟩ := fishHistory.scan_of_makesEvent year (Or.inl rfl) hmakes
  exact ⟨scan, hscan, hev, hwarn⟩

end Timeline
