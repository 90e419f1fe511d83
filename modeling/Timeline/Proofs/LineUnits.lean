import Mathlib.Data.List.Basic
import Timeline.Scan.Text
import Timeline.Line.Split
/-!
# The units a text scan reads

A text scan reads its source through four readers: `skipPreamble`,
`nextUnitStart`, `gatherLines` and `TextArtifact.readUnit`. This module
computes each of them as an operation on the list of pending lines, and from
them the units a whole scan reads.

* The source. `LineSource.skipWhile` drops leading lines. A source
  `EndsCleanly` when its data ends plainly or its other end went away; looking
  past the end of such a source gives no line and no error (`look_of_nil`).
* The readers as list operations (`skipPreamble_eq`, `nextUnitStart_eq`,
  `gatherLines_eq`). Each holds for every source: a reader takes a prefix of
  the pending lines and looks past it only where the scan does, so a fault can
  only strike there.
* The reference splitter. `TextArtifact.spans` cuts a list of lines into blank
  lines and units in the terms the format is described in, without sources;
  `preambleLines` and `afterPreamble` first set the preamble apart, and
  `segment` is the units of a text.
* `TextArtifact.readUnits` is the sequence of units read one after another, and
  `readUnits_of_endsCleanly` shows that it is the reference's.

The main statement, `unitsRead_ofBytes_eq_segment`, says that the units a scan
of a text reads are those of the reference splitter, and that every line of the
text is exactly one of a preamble line, a skipped blank line, or a line of one
unit.
-/

namespace Timeline

/-! ## Sources -/

namespace LineSource

/-- A source whose data ends plainly, or whose other end went away: a scan
takes both for the end of the data. -/
def EndsCleanly (s : LineSource) : Prop :=
  s.failure = none ∨ s.failure = some .closed

/-- The source without its leading lines that pass a test. -/
def skipWhile (s : LineSource) (f : Line → Bool) : LineSource :=
  { s with pending := s.pending.dropWhile f }

@[simp] theorem skipWhile_pending (s : LineSource) (f : Line → Bool) :
    (s.skipWhile f).pending = s.pending.dropWhile f := rfl

@[simp] theorem skipWhile_failure (s : LineSource) (f : Line → Bool) :
    (s.skipWhile f).failure = s.failure := rfl

@[simp] theorem advance_pending (s : LineSource) : s.advance.pending = s.pending.tail := rfl

@[simp] theorem advance_failure (s : LineSource) : s.advance.failure = s.failure := rfl

theorem look_of_cons {s : LineSource} {l : Line} {ls : List Line} (h : s.pending = l :: ls) :
    s.look = .ok (some l) := by
  simp [look, peek, h]

theorem look_of_nil {s : LineSource} (h : s.pending = []) (hs : s.EndsCleanly) :
    s.look = .ok none := by
  rcases hs with hf | hf <;> simp [look, peek, afterEnd, h, hf]

/-- Looking at a source that ends cleanly never fails. -/
theorem look_map_of_endsCleanly {α : Type} {s : LineSource} (hs : s.EndsCleanly) (v : α) :
    s.look.map (fun _ => v) = .ok v := by
  cases h : s.pending with
  | nil => simp [look_of_nil h hs, Except.map]
  | cons l ls => simp [look_of_cons h, Except.map]

/-- A source is the same source once it has no leading line that a test passes. -/
theorem skipWhile_of_head {s : LineSource} {f : Line → Bool} {l : Line} {ls : List Line}
    (h : s.pending = l :: ls) (hf : f l = false) : s.skipWhile f = s := by
  cases s
  simp_all [skipWhile]

theorem skipWhile_advance {s : LineSource} {f : Line → Bool} {l : Line} {ls : List Line}
    (h : s.pending = l :: ls) (hf : f l = true) : s.advance.skipWhile f = s.skipWhile f := by
  simp [skipWhile, advance, h, hf]

theorem skipWhile_of_nil {s : LineSource} (h : s.pending = []) (f : Line → Bool) :
    s.skipWhile f = s := by
  cases s
  simp_all [skipWhile]

theorem endsCleanly_skipWhile {s : LineSource} (hs : s.EndsCleanly) (f : Line → Bool) :
    (s.skipWhile f).EndsCleanly := hs

end LineSource

/-! ## The readers as list operations -/

namespace Preamble

/-- Whether a line is a preamble line. -/
def takes (p : Preamble) (l : Line) : Bool :=
  (p.classify l.text).isSome

/-- The year that the preamble lines at the start of `ls` give: that of the
last of them that carries a year, else `year`. -/
def yearOf (p : Preamble) (year : Option Int) (ls : List Line) : Option Int :=
  (((ls.takeWhile p.takes).filterMap fun l => (p.classify l.text).join).getLast?).or year

/-- A preamble line hands its year, when it carries one, to the lines after it. -/
theorem yearOf_cons {p : Preamble} {year found : Option Int} {l : Line} (ls : List Line)
    (h : p.classify l.text = some found) :
    p.yearOf year (l :: ls) = p.yearOf (found.or year) ls := by
  have ht : p.takes l = true := by simp [takes, h]
  simp only [yearOf, List.takeWhile_cons_of_pos ht, List.filterMap_cons, h, Option.join_some]
  cases found with
  | none => simp
  | some y =>
    simp only [List.getLast?_cons, Option.some_or]
    cases ((List.takeWhile p.takes ls).filterMap fun l => (p.classify l.text).join).getLast? <;> rfl

/-- Without preamble lines at the start, the year is the one given. -/
theorem yearOf_of_not_takes {p : Preamble} {year : Option Int} {l : Line} (ls : List Line)
    (h : p.classify l.text = none) : p.yearOf year (l :: ls) = year := by
  have ht : ¬p.takes l = true := by simp [takes, h]
  simp [yearOf, List.takeWhile_cons_of_neg ht]

end Preamble

/-- Skipping the preamble drops its lines and keeps the year of the last one
that carries a year; it looks past them only when no line follows. -/
theorem skipPreamble_eq (p : Preamble) (year : Option Int) (s : LineSource) :
    skipPreamble p year s =
      (s.skipWhile p.takes).look.map fun _ => (p.yearOf year s.pending, s.skipWhile p.takes) := by
  induction year, s using skipPreamble.induct p with
  | case1 y s hs =>
    rw [skipPreamble, hs, LineSource.skipWhile_of_nil hs]
    simp [Preamble.yearOf]
  | case2 y s l rest hs hc =>
    have ht : p.takes l = false := by simp [Preamble.takes, hc]
    rw [skipPreamble, hs]
    simp only [hc]
    rw [LineSource.skipWhile_of_head hs ht, LineSource.look_of_cons hs,
      Preamble.yearOf_of_not_takes rest hc]
    rfl
  | case3 y s l rest hs found hc ih =>
    have ht : p.takes l = true := by simp [Preamble.takes, hc]
    rw [skipPreamble, hs]
    simp only [hc]
    rw [ih, LineSource.skipWhile_advance hs ht, Preamble.yearOf_cons rest hc]
    simp [hs]

/-- Whether a scan skips a line before a unit: it is valid UTF-8 and blank. -/
def Line.isBlank (l : Line) : Bool :=
  l.validUtf8 && Text.isBlank l.text

/-- The next unit starts at the first line that is not blank. -/
theorem nextUnitStart_eq (s : LineSource) :
    nextUnitStart s =
      match s.pending.dropWhile Line.isBlank with
      | [] => (s.skipWhile Line.isBlank).look.map fun _ => none
      | l :: rest => .ok (some (l, { s with pending := rest })) := by
  induction s using nextUnitStart.induct with
  | case1 s hs =>
    rw [nextUnitStart, hs, LineSource.skipWhile_of_nil hs]
    simp
  | case2 s l rest hs hb ih =>
    have hb' : l.isBlank = true := hb
    rw [nextUnitStart, hs]
    simp only [hb, if_true]
    rw [ih, LineSource.skipWhile_advance hs hb']
    simp [hs, hb']
  | case3 s l rest hs hb =>
    have hb' : l.isBlank = false := by simpa [Line.isBlank] using hb
    rw [nextUnitStart, hs]
    simp only [hb]
    simp [hs, hb', LineSource.advance]

/-- Whether a line continues a unit under a lookahead boundary: it is valid
UTF-8 and the boundary does not match it. -/
def continuesUnit (b : Pattern) (l : Line) : Bool :=
  l.validUtf8 && !b.isMatch l.text

/-- Gathering takes the lines that continue the unit, joined to it by line
feeds, and looks at the line after them. -/
theorem gatherLines_eq (b : Pattern) (acc : String) (s : LineSource) :
    gatherLines b acc s =
      (s.skipWhile (continuesUnit b)).look.map fun _ =>
        ("\n".intercalate (acc :: (s.pending.takeWhile (continuesUnit b)).map (·.text)),
          s.skipWhile (continuesUnit b)) := by
  induction acc, s using gatherLines.induct b with
  | case1 acc s hs =>
    rw [gatherLines, hs, LineSource.skipWhile_of_nil hs]
    simp
  | case2 acc s l rest hs hstop =>
    have hc : continuesUnit b l = false := by
      cases hv : l.validUtf8 <;> simp_all [continuesUnit]
    rw [gatherLines, hs]
    simp only [hstop, if_true]
    rw [LineSource.skipWhile_of_head hs hc, LineSource.look_of_cons hs]
    simp [hc, Except.map]
  | case3 acc s l rest hs hstop ih =>
    have hc : continuesUnit b l = true := by
      simpa [continuesUnit, Bool.or_eq_true] using hstop
    rw [gatherLines, hs]
    simp only [hstop]
    rw [ih, LineSource.skipWhile_advance hs hc]
    simp [hs, hc, String.append_assoc]

/-- A blank line before a unit is skipped. -/
theorem TextArtifact.readUnit_of_blank (a : TextArtifact) {s : LineSource} {l : Line}
    {rest : List Line} (hs : s.pending = l :: rest) (hb : l.isBlank = true) :
    a.readUnit s = a.readUnit { s with pending := rest } := by
  have hstart : nextUnitStart s = nextUnitStart { s with pending := rest } := by
    rw [nextUnitStart, hs]
    simp only [show (l.validUtf8 && Text.isBlank l.text) = true from hb, if_true]
    simp [LineSource.advance, hs]
  unfold TextArtifact.readUnit
  rw [hstart]

/-- At the end of the data no unit starts; the source is looked at once more. -/
theorem TextArtifact.readUnit_of_nil (a : TextArtifact) {s : LineSource} (hs : s.pending = []) :
    a.readUnit s = s.look.map fun _ => none := by
  unfold TextArtifact.readUnit
  rw [nextUnitStart, hs]
  cases s.look <;> rfl

/-- A line that is not blank starts a unit. A line that is not valid UTF-8, or
any line under a line boundary, is the whole unit; under a lookahead boundary
the unit takes the lines that continue it and looks at the line after them. -/
theorem TextArtifact.readUnit_of_start (a : TextArtifact) {s : LineSource} {l : Line}
    {rest : List Line} (hs : s.pending = l :: rest) (hb : l.isBlank = false) :
    a.readUnit s =
      if !l.validUtf8 then .ok (some (⟨l.number, l.text, false⟩, { s with pending := rest }))
      else
        match a.grammar.boundary with
        | .line => .ok (some (⟨l.number, l.text, true⟩, { s with pending := rest }))
        | .lookahead b =>
          ({ s with pending := rest.dropWhile (continuesUnit b) } : LineSource).look.map fun _ =>
            some (⟨l.number, Text.dropTrailingLineFeeds
                ("\n".intercalate (l.text :: (rest.takeWhile (continuesUnit b)).map (·.text))), true⟩,
              { s with pending := rest.dropWhile (continuesUnit b) }) := by
  have hstart : nextUnitStart s = .ok (some (l, { s with pending := rest })) := by
    rw [nextUnitStart_eq, hs]
    simp [hb]
  unfold TextArtifact.readUnit
  rw [hstart]
  dsimp only
  cases hv : l.validUtf8 with
  | false => rfl
  | true =>
    cases hbd : a.grammar.boundary with
    | line => rfl
    | lookahead b =>
      -- the unit's text and the source after it both come from gathering
      simp only [gatherLines_eq]
      cases hlook : ({ s with pending := rest.dropWhile (continuesUnit b) } : LineSource).look <;>
        simp [LineSource.skipWhile, hlook, Except.map]

/-! ## The reference splitter -/

/-- How a scan reads a line after the preamble: as a blank line that it skips,
or as one of the lines of a unit. -/
inductive Span where
  /-- A blank line, skipped before a unit. -/
  | blank (line : Line)
  /-- The lines of one unit, and the unit they make. -/
  | unit (lines : List Line) (unit : TextUnit)

namespace Span

/-- The lines of a span. -/
def lines : Span → List Line
  | .blank l => [l]
  | .unit ls _ => ls

/-- The unit of a span, if it is one. -/
def unit? : Span → Option TextUnit
  | .blank _ => none
  | .unit _ u => some u

end Span

namespace TextArtifact

/-- The lines after the preamble, cut the way the format describes them. Blank
lines are skipped one at a time, and the next line starts a unit located at its
number. A line that is not valid UTF-8 is a unit on its own, with its text
decoded with replacements. Under a line boundary a unit is one line. Under a
lookahead boundary a unit also takes every following line while that line is
valid UTF-8 and the boundary does not match it; the texts are joined with line
feeds and the line feeds at the end are removed. -/
def spans (a : TextArtifact) : List Line → List Span
  | [] => []
  | l :: rest =>
    if l.isBlank then .blank l :: a.spans rest
    else if !l.validUtf8 then .unit [l] ⟨l.number, l.text, false⟩ :: a.spans rest
    else
      match a.grammar.boundary with
      | .line => .unit [l] ⟨l.number, l.text, true⟩ :: a.spans rest
      | .lookahead b =>
        .unit (l :: rest.takeWhile (continuesUnit b))
            ⟨l.number, Text.dropTrailingLineFeeds
              ("\n".intercalate (l.text :: (rest.takeWhile (continuesUnit b)).map (·.text))), true⟩ ::
          a.spans (rest.dropWhile (continuesUnit b))
termination_by ls => ls.length
decreasing_by
  all_goals simp only [List.length_cons]
  · omega
  · omega
  · omega
  · have := (List.dropWhile_sublist (continuesUnit b) (l := rest)).length_le
    omega

/-- The preamble lines at the start of a text: the longest run of lines that
the preamble takes, and none without a preamble. -/
def preambleLines (a : TextArtifact) (ls : List Line) : List Line :=
  match a.preamble with
  | some p => ls.takeWhile p.takes
  | none => []

/-- The lines of a text after its preamble lines. -/
def afterPreamble (a : TextArtifact) (ls : List Line) : List Line :=
  match a.preamble with
  | some p => ls.dropWhile p.takes
  | none => ls

/-- The year that dates the records of a text without one: that of the last
preamble line that carries a year, else `year`. -/
def preambleYear (a : TextArtifact) (year : Option Int) (ls : List Line) : Option Int :=
  match a.preamble with
  | some p => p.yearOf year ls
  | none => year

/-- The units of a text, in order. -/
def segment (a : TextArtifact) (ls : List Line) : List TextUnit :=
  (a.spans (a.afterPreamble ls)).filterMap Span.unit?

/-- The spans hold every line once, in order. -/
theorem flatMap_lines_spans (a : TextArtifact) (ls : List Line) :
    (a.spans ls).flatMap Span.lines = ls := by
  fun_induction a.spans ls with
  | case1 => rfl
  | case2 l rest hb ih => simp [Span.lines, ih]
  | case3 l rest hb hv ih => simp [Span.lines, ih]
  | case4 l rest hb hv hbd ih => simp [Span.lines, ih]
  | case5 l rest hb hv b hbd ih => simp [Span.lines, ih]

/-- A text is its preamble lines followed by the lines of its spans. -/
theorem preambleLines_append_spans (a : TextArtifact) (ls : List Line) :
    a.preambleLines ls ++ (a.spans (a.afterPreamble ls)).flatMap Span.lines = ls := by
  rw [flatMap_lines_spans]
  unfold preambleLines afterPreamble
  split <;> simp

/-! ## The units read from a source -/

/-- The units read one after another from a source until the data ends or a
read fails: the units, and the fault, if any. -/
def readUnits (a : TextArtifact) (s : LineSource) : List TextUnit × Option SourceError :=
  match h : a.readUnit s with
  | .error e => ([], some e)
  | .ok none => ([], none)
  | .ok (some (u, s')) =>
    have := readUnit_shorter h
    (u :: (a.readUnits s').1, (a.readUnits s').2)
termination_by s.pending.length

theorem readUnits_of_error (a : TextArtifact) {s : LineSource} {e : SourceError}
    (h : a.readUnit s = .error e) : a.readUnits s = ([], some e) := by
  rw [readUnits]
  split <;> simp_all

theorem readUnits_of_none (a : TextArtifact) {s : LineSource}
    (h : a.readUnit s = .ok none) : a.readUnits s = ([], none) := by
  rw [readUnits]
  split <;> simp_all

theorem readUnits_of_some (a : TextArtifact) {s s' : LineSource} {u : TextUnit}
    (h : a.readUnit s = .ok (some (u, s'))) :
    a.readUnits s = (u :: (a.readUnits s').1, (a.readUnits s').2) := by
  rw [readUnits]
  split <;> simp_all

/-- Sources that give the same next unit give the same units. -/
theorem readUnits_congr (a : TextArtifact) {s t : LineSource} (h : a.readUnit s = a.readUnit t) :
    a.readUnits s = a.readUnits t := by
  cases ht : a.readUnit t with
  | error e => rw [readUnits_of_error a (h.trans ht), readUnits_of_error a ht]
  | ok r =>
    cases r with
    | none => rw [readUnits_of_none a (h.trans ht), readUnits_of_none a ht]
    | some r => rw [readUnits_of_some a (h.trans ht), readUnits_of_some a ht]

/-- From a source that ends cleanly, the units read are those of the reference
splitter, and no fault stops the reading. -/
theorem readUnits_of_endsCleanly (a : TextArtifact) {s : LineSource} (hs : s.EndsCleanly) :
    a.readUnits s = ((a.spans s.pending).filterMap Span.unit?, none) := by
  -- induction over the spans of the pending lines, for every source that holds them
  suffices ∀ ls (s : LineSource), s.pending = ls → s.EndsCleanly →
      a.readUnits s = ((a.spans ls).filterMap Span.unit?, none) from this _ s rfl hs
  intro ls
  fun_induction a.spans ls with
  | case1 =>
    intro s hp hs
    rw [readUnits_of_none a (by rw [a.readUnit_of_nil hp, LineSource.look_map_of_endsCleanly hs])]
    rfl
  | case2 l rest hb ih =>
    intro s hp hs
    rw [readUnits_congr a (a.readUnit_of_blank hp hb), ih { s with pending := rest } rfl hs]
    rfl
  | case3 l rest hb hv ih =>
    intro s hp hs
    have hb' : l.isBlank = false := by simpa using hb
    have hread : a.readUnit s = .ok (some (⟨l.number, l.text, false⟩, { s with pending := rest })) := by
      rw [a.readUnit_of_start hp hb']
      simp [hv]
    rw [readUnits_of_some a hread, ih { s with pending := rest } rfl hs]
    simp [Span.unit?]
  | case4 l rest hb hv hbd ih =>
    intro s hp hs
    have hb' : l.isBlank = false := by simpa using hb
    have hread : a.readUnit s = .ok (some (⟨l.number, l.text, true⟩, { s with pending := rest })) := by
      rw [a.readUnit_of_start hp hb']
      simp [hv, hbd]
    rw [readUnits_of_some a hread, ih { s with pending := rest } rfl hs]
    simp [Span.unit?]
  | case5 l rest hb hv b hbd ih =>
    intro s hp hs
    have hb' : l.isBlank = false := by simpa using hb
    have hs' : ({ s with pending := rest.dropWhile (continuesUnit b) } : LineSource).EndsCleanly := hs
    have hread : a.readUnit s = .ok (some (⟨l.number, Text.dropTrailingLineFeeds
        ("\n".intercalate (l.text :: (rest.takeWhile (continuesUnit b)).map (·.text))), true⟩,
        { s with pending := rest.dropWhile (continuesUnit b) })) := by
      rw [a.readUnit_of_start hp hb']
      simp [hv, hbd, LineSource.look_map_of_endsCleanly hs']
    rw [readUnits_of_some a hread, ih _ rfl hs']
    simp [Span.unit?]

/-- The units a scan reads from a source after its preamble, in order, and the
fault that stopped the reading, if any. -/
def unitsRead (a : TextArtifact) (year : Option Int) (s : LineSource) :
    List TextUnit × Option SourceError :=
  match a.consumePreamble year s with
  | .error e => ([], some e)
  | .ok (_, s') => a.readUnits s'

/-- From a source that ends cleanly the preamble is skipped without a fault. -/
theorem consumePreamble_of_endsCleanly (a : TextArtifact) (year : Option Int) {s : LineSource}
    (hs : s.EndsCleanly) :
    a.consumePreamble year s =
      .ok (a.preambleYear year s.pending, { s with pending := a.afterPreamble s.pending }) := by
  cases hp : a.preamble with
  | some p =>
    simp only [consumePreamble, preambleYear, afterPreamble, hp]
    rw [skipPreamble_eq, LineSource.look_map_of_endsCleanly (LineSource.endsCleanly_skipWhile hs _)]
    rfl
  | none => simp [consumePreamble, preambleYear, afterPreamble, hp]

/-- A scan of a text reads exactly the units of the reference splitter, in
order and without a fault; and every line of the text is a preamble line, a
skipped blank line or a line of exactly one unit. -/
theorem unitsRead_ofBytes_eq_segment (a : TextArtifact) (year : Option Int) (bytes : List UInt8) :
    a.unitsRead year (LineSource.ofBytes bytes) = (a.segment (splitLines bytes), none) ∧
      a.preambleLines (splitLines bytes) ++
          (a.spans (a.afterPreamble (splitLines bytes))).flatMap Span.lines =
        splitLines bytes := by
  have hs : (LineSource.ofBytes bytes).EndsCleanly := Or.inl rfl
  refine ⟨?_, a.preambleLines_append_spans _⟩
  unfold unitsRead
  rw [a.consumePreamble_of_endsCleanly year hs]
  exact a.readUnits_of_endsCleanly hs

end TextArtifact

end Timeline
