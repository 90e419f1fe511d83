import Timeline.Artifact.Basic
import Timeline.Line.Basic
import Timeline.Text.Trim
/-!
# Scanning text evidence

A text artifact scans a line source unit by unit. The scan is a machine with
five states:

* `idle`: the preamble lines at the start of the source are skipped; the last
  of them that carries a year dates the records that have none.
* `readingUnit`: blank lines (valid UTF-8 and white space only) are skipped and
  the next unit is read. A line that is not valid UTF-8 is a unit of its own.
  With a lookahead boundary, the unit also takes every following line up to a
  line that is not valid UTF-8 or that the boundary matches; the lines are
  joined with line feeds and the line feeds at the end are dropped. A unit of
  valid text is then read by the grammar.
* `unitMatched`: the unit's record becomes an event, which the sink is handed.
* `unitFailed`: the sink is handed a warning with the reason.
* `exhausted`: the source holds no more units.

A source that closes counts as the end of the data; any other read failure
stops the scan with that error, and the sink keeps what it was handed before.
Each step that reads takes at least one line or moves the scan to a state
nearer the next read, so the scan ends (`step_remaining_lt`).
-/

namespace Timeline

/-- The next line as a scan sees it: a closed source has ended. -/
def LineSource.look (s : LineSource) : Except SourceError (Option Line) :=
  match s.peek 0 with
  | .error .closed => .ok none
  | r => r

/-- The source without its next line. -/
def LineSource.advance (s : LineSource) : LineSource :=
  { s with pending := s.pending.tail }

/-- Skips the preamble lines at the start; the year of the last one that carries
a year replaces `year`. -/
def skipPreamble (p : Preamble) (year : Option Int) (s : LineSource) :
    Except SourceError (Option Int × LineSource) :=
  match _h : s.pending with
  | [] => s.look.map fun _ => (year, s)
  | l :: _ =>
    match p.classify l.text with
    | none => .ok (year, s)
    | some found => skipPreamble p (found.or year) s.advance
termination_by s.pending.length
decreasing_by simp [LineSource.advance, _h]

/-- Skips blank lines and hands out the first line of the next unit. -/
def nextUnitStart (s : LineSource) : Except SourceError (Option (Line × LineSource)) :=
  match _h : s.pending with
  | [] => s.look.map fun _ => none
  | l :: _ =>
    if l.validUtf8 && Text.isBlank l.text then nextUnitStart s.advance
    else .ok (some (l, s.advance))
termination_by s.pending.length
decreasing_by simp [LineSource.advance, _h]

/-- Appends the following lines up to one that is not valid UTF-8 or that the
boundary matches. -/
def gatherLines (boundary : Pattern) (acc : String) (s : LineSource) :
    Except SourceError (String × LineSource) :=
  match _h : s.pending with
  | [] => s.look.map fun _ => (acc, s)
  | l :: _ =>
    if !l.validUtf8 || boundary.isMatch l.text then .ok (acc, s)
    else gatherLines boundary (acc ++ "\n" ++ l.text) s.advance
termination_by s.pending.length
decreasing_by simp [LineSource.advance, _h]

/-- Skips the preamble, when the artifact has one. -/
def TextArtifact.consumePreamble (a : TextArtifact) (year : Option Int) (s : LineSource) :
    Except SourceError (Option Int × LineSource) :=
  match a.preamble with
  | some p => skipPreamble p year s
  | none => .ok (year, s)

/-- A unit read from a text: the number of its first line, its text, and whether
its first line was valid UTF-8 (a line that is not is a unit of its own). -/
structure TextUnit where
  line : Nat
  text : String
  validUtf8 : Bool
  deriving DecidableEq, Repr

/-- Reads the next unit; `none` when the data ends before one starts. -/
def TextArtifact.readUnit (a : TextArtifact) (s : LineSource) :
    Except SourceError (Option (TextUnit × LineSource)) :=
  match nextUnitStart s with
  | .error e => .error e
  | .ok none => .ok none
  | .ok (some (first, s')) =>
    if !first.validUtf8 then .ok (some (⟨first.number, first.text, false⟩, s'))
    else
      match a.grammar.boundary with
      | .line => .ok (some (⟨first.number, first.text, true⟩, s'))
      | .lookahead b =>
        match gatherLines b first.text s' with
        | .error e => .error e
        | .ok (text, s'') => .ok (some (⟨first.number, Text.dropTrailingLineFeeds text, true⟩, s''))

/-- Where a text scan stands. -/
inductive ScanState where
  /-- Nothing is read yet: the preamble comes first. -/
  | idle
  /-- Between two units. -/
  | readingUnit
  /-- A unit whose text the grammar read, not handed on yet. -/
  | unitMatched (unit : TextUnit) (record : Record)
  /-- A unit that gives no event, and why. -/
  | unitFailed (unit : TextUnit) (message : String)
  /-- The source holds no more units. -/
  | exhausted
  deriving DecidableEq, Repr

/-- A text scan under way: its state, the year that dates records without one,
its counts, the source, and what the sink has been handed. -/
structure LineScanner where
  state : ScanState := .idle
  year : Option Int
  stats : Stats := {}
  source : LineSource
  sink : Collected := {}

/-- The state a unit just read puts a scan in: a unit that is not valid UTF-8
fails at once, any other is read by the grammar. -/
def TextArtifact.unitState (a : TextArtifact) (year : Option Int) (u : TextUnit) : ScanState :=
  if !u.validUtf8 then .unitFailed u "line is not valid UTF-8"
  else
    match a.grammar.extract u.text year with
    | .ok record => .unitMatched u record
    | .error e => .unitFailed u e.message

/-- One step of a text scan; a fault of the source stops it. -/
def TextArtifact.step (a : TextArtifact) (m : LineScanner) : Except SourceError LineScanner :=
  match m.state with
  | .idle =>
    match a.consumePreamble m.year m.source with
    | .error e => .error e
    | .ok (year, source) => .ok { m with state := .readingUnit, year, source }
  | .readingUnit =>
    match a.readUnit m.source with
    | .error e => .error e
    | .ok none => .ok { m with state := .exhausted }
    | .ok (some (u, source)) =>
      .ok { m with state := a.unitState m.year u, source,
                   stats := { m.stats with units := m.stats.units + 1 } }
  | .unitMatched u record =>
    match a.emission.toEvent a.name (.line u.line) record a.hints with
    | .ok e =>
      .ok { m with state := .readingUnit, sink := m.sink.emit e,
                   stats := { m.stats with events := m.stats.events + 1 } }
    | .error e => .ok { m with state := .unitFailed u e.message }
  | .unitFailed u message =>
    .ok { m with state := .readingUnit, sink := m.sink.warn ⟨a.name, .line u.line, u.text, message⟩,
                 stats := { m.stats with warnings := m.stats.warnings + 1 } }
  | .exhausted => .ok m

/-! ## Termination -/

/-- How many steps a state is, at most, from the next read of the source. -/
def ScanState.rank : ScanState → Nat
  | .idle => 4
  | .unitMatched .. => 3
  | .unitFailed .. => 2
  | .readingUnit => 1
  | .exhausted => 0

/-- What is left of a scan: four for each line still to read, and the rank of
its state. -/
def LineScanner.remaining (m : LineScanner) : Nat :=
  4 * m.source.pending.length + m.state.rank

theorem skipPreamble_not_longer {p : Preamble} {y y' : Option Int} {s s' : LineSource}
    (h : skipPreamble p y s = .ok (y', s')) : s'.pending.length ≤ s.pending.length := by
  induction y, s using skipPreamble.induct p with
  | case1 y s hs =>
    rw [skipPreamble, hs] at h
    cases hl : s.look <;> simp [hl, Except.map] at h
    obtain ⟨-, rfl⟩ := h
    exact Nat.le_refl _
  | case2 y s l rest hs hc =>
    rw [skipPreamble, hs] at h
    simp only [hc] at h
    cases h
    exact Nat.le_refl _
  | case3 y s l rest hs found hc ih =>
    rw [skipPreamble, hs] at h
    simp only [hc] at h
    have := ih h
    simp [LineSource.advance, hs] at this ⊢
    omega

theorem nextUnitStart_shorter {s s' : LineSource} {l : Line}
    (h : nextUnitStart s = .ok (some (l, s'))) : s'.pending.length < s.pending.length := by
  induction s using nextUnitStart.induct with
  | case1 s hs => rw [nextUnitStart, hs] at h; cases hl : s.look <;> simp [hl, Except.map] at h
  | case2 s l' rest hs hblank ih =>
    rw [nextUnitStart, hs] at h
    simp only [hblank, if_true] at h
    have := ih h
    simp [LineSource.advance, hs] at this ⊢
    omega
  | case3 s l' rest hs hblank =>
    rw [nextUnitStart, hs] at h
    simp only [hblank] at h
    cases h
    simp [LineSource.advance, hs]

theorem gatherLines_not_longer {b : Pattern} {acc t : String} {s s' : LineSource}
    (h : gatherLines b acc s = .ok (t, s')) : s'.pending.length ≤ s.pending.length := by
  induction acc, s using gatherLines.induct b with
  | case1 acc s hs =>
    rw [gatherLines, hs] at h
    cases hl : s.look <;> simp [hl, Except.map] at h
    obtain ⟨-, rfl⟩ := h
    exact Nat.le_refl _
  | case2 acc s l' rest hs hstop =>
    rw [gatherLines, hs] at h
    simp only [hstop, if_true] at h
    cases h
    exact Nat.le_refl _
  | case3 acc s l' rest hs hstop ih =>
    rw [gatherLines, hs] at h
    simp only [hstop] at h
    have := ih h
    simp [LineSource.advance, hs] at this ⊢
    omega

/-- Reading a unit takes at least its first line. -/
theorem readUnit_shorter {a : TextArtifact} {s s' : LineSource} {u : TextUnit}
    (h : a.readUnit s = .ok (some (u, s'))) : s'.pending.length < s.pending.length := by
  unfold TextArtifact.readUnit at h
  split at h
  · cases h
  · cases h
  · rename_i first s₁ hstart
    have hlt := nextUnitStart_shorter hstart
    split at h
    · cases h
      exact hlt
    · split at h
      · cases h
        exact hlt
      · split at h
        · cases h
        · rename_i text s₂ hgather
          cases h
          exact Nat.lt_of_le_of_lt (gatherLines_not_longer hgather) hlt

/-- Every step of a scan that has not ended leaves less of it. -/
theorem step_remaining_lt {a : TextArtifact} {m m' : LineScanner}
    (hm : m.state ≠ .exhausted) (h : a.step m = .ok m') : m'.remaining < m.remaining := by
  unfold TextArtifact.step at h
  unfold LineScanner.remaining
  split at h
  · rename_i hidle
    split at h
    · cases h
    · rename_i year source hpre
      cases h
      have : source.pending.length ≤ m.source.pending.length := by
        unfold TextArtifact.consumePreamble at hpre
        split at hpre
        · exact skipPreamble_not_longer hpre
        · cases hpre
          exact Nat.le_refl _
      simp only [hidle, ScanState.rank]
      omega
  · rename_i hread
    split at h
    · cases h
    · cases h
      simp [hread, ScanState.rank]
    · rename_i u source hunit
      cases h
      have hlt := readUnit_shorter hunit
      have hbound : (a.unitState m.year u).rank ≤ 3 := by
        unfold TextArtifact.unitState
        split
        · simp [ScanState.rank]
        · split <;> simp [ScanState.rank]
      have hrank : m.state.rank = 1 := by rw [hread]; rfl
      dsimp only
      omega
  · rename_i u record hmatched
    split at h <;> cases h <;> simp [hmatched, ScanState.rank]
  · rename_i u message hfailed
    cases h
    simp [hfailed, ScanState.rank]
  · rename_i hexhausted
    exact absurd hexhausted hm

/-! ## Whole scans -/

/-- Runs a scan until the source holds no more units or fails: the scan as it
stands at the end, and the fault that stopped it, if any. -/
def TextArtifact.run (a : TextArtifact) (m : LineScanner) : LineScanner × Option SourceError :=
  if _hm : m.state = .exhausted then (m, none)
  else
    match _h : a.step m with
    | .error e => (m, some e)
    | .ok m' => a.run m'
termination_by m.remaining
decreasing_by exact step_remaining_lt _hm _h

/-- Scans a source into a sink, dating records without a year by `year` unless
a preamble line gives one: the counts, or the fault that stopped the scan, and
what the sink holds at the end. -/
def TextArtifact.scanInto (a : TextArtifact) (year : Option Int) (s : LineSource)
    (sink : Collected) : Except SourceError Stats × Collected :=
  let (m, fault) := a.run { year, source := s, sink }
  match fault with
  | none => (.ok m.stats, m.sink)
  | some e => (.error e, m.sink)

/-- What a text scan has handed on and counted. -/
structure TextScan where
  collected : Collected := {}
  stats : Stats := {}

/-- Scans a whole source into an empty sink. -/
def TextArtifact.scan (a : TextArtifact) (year : Option Int) (s : LineSource) :
    Except SourceError TextScan :=
  match a.scanInto year s {} with
  | (.ok stats, collected) => .ok { collected, stats }
  | (.error e, _) => .error e

end Timeline
