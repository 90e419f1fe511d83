import Mathlib.Data.List.Forall2
import Timeline.Proofs.LineUnits
/-!
# What a text scan hands on

A text scan (`TextArtifact.run`) reads a unit, puts it in `unitMatched` or
`unitFailed`, hands the sink one item for it, and is back between units. This
module computes what a whole scan does from that.

* Items. `Handed` is one item a sink is handed, an event or a warning;
  `Collected.handAll` and `Stats.tallyAll` hand on and count a list of them.
  The counts always agree with the sink (`tallyAll_eq`) and each unit is
  counted once as an event or a warning (`length_filterMap_event_add_warning`).
* One unit. `TextArtifact.outcome` is what the sink is handed for a unit, and
  `run_unitState` shows that the machine hands exactly that, in one or two
  steps, whether the unit is not valid UTF-8, its text does not match the
  grammar, or its event cannot be made.
* A whole scan. `run_of_readingUnit` is the induction over the units read, and
  `scanInto_eq` gives a whole scan: the sink is handed the outcome of each unit
  read after the preamble, in order, and the fault that stopped the reading is
  the scan's. From a source that ends cleanly no read fails
  (`scanInto_of_endsCleanly`).
* What each unit gives. `HandsOn` says what a scan must hand on for a unit, in
  the terms of the format, and `handsOn_outcome` shows the outcome is that.

The main statement, `scanInto_hands_each_unit_once`, says that a scan of a text
into an empty sink succeeds, hands the sink exactly one item per unit (the
event when the unit is valid UTF-8 and both its record and its event can be
made, and otherwise a warning with the artifact, the location and the unit's
text), counts units, events and warnings as the sink holds them, and hands the
items at strictly increasing lines.
-/

namespace Timeline

/-! ## Items handed to a sink -/

/-- One item a scan hands its sink. -/
inductive Handed where
  | event (e : Event)
  | warning (w : Warning)

namespace Handed

/-- The event of an item, if it is one. -/
def event? : Handed → Option Event
  | .event e => some e
  | .warning _ => none

/-- The warning of an item, if it is one. -/
def warning? : Handed → Option Warning
  | .event _ => none
  | .warning w => some w

/-- Where the unit of an item was found. -/
def location : Handed → Location
  | .event e => e.location
  | .warning w => w.location

end Handed

/-- Hands a sink one item. -/
def Collected.hand (c : Collected) : Handed → Collected
  | .event e => c.emit e
  | .warning w => c.warn w

/-- Hands a sink items in order. -/
def Collected.handAll (c : Collected) (items : List Handed) : Collected :=
  items.foldl Collected.hand c

/-- Counts the item a unit gave; the unit itself is counted when it is read. -/
def Stats.count (st : Stats) : Handed → Stats
  | .event _ => { st with events := st.events + 1 }
  | .warning _ => { st with warnings := st.warnings + 1 }

/-- Counts one unit and the item it gave. -/
def Stats.tally (st : Stats) (h : Handed) : Stats :=
  ({ st with units := st.units + 1 } : Stats).count h

/-- Counts units and the items they gave, in order. -/
def Stats.tallyAll (st : Stats) (items : List Handed) : Stats :=
  items.foldl Stats.tally st

theorem handAll_events (c : Collected) (items : List Handed) :
    (c.handAll items).events.toList = c.events.toList ++ items.filterMap Handed.event? := by
  induction items generalizing c with
  | nil => simp [Collected.handAll]
  | cons h items ih =>
    rw [Collected.handAll, List.foldl_cons, ← Collected.handAll, ih]
    cases h with
    | event e => simp [Collected.hand, Collected.emit, Handed.event?]
    | warning w => simp [Collected.hand, Collected.warn, Handed.event?, List.filterMap_cons]

theorem handAll_warnings (c : Collected) (items : List Handed) :
    (c.handAll items).warnings.toList = c.warnings.toList ++ items.filterMap Handed.warning? := by
  induction items generalizing c with
  | nil => simp [Collected.handAll]
  | cons h items ih =>
    rw [Collected.handAll, List.foldl_cons, ← Collected.handAll, ih]
    cases h with
    | event e => simp [Collected.hand, Collected.emit, Handed.warning?, List.filterMap_cons]
    | warning w => simp [Collected.hand, Collected.warn, Handed.warning?]

/-- Counting items adds their number to the units, and the numbers of their
events and of their warnings to the events and the warnings. -/
theorem tallyAll_eq (st : Stats) (items : List Handed) :
    st.tallyAll items =
      { units := st.units + items.length,
        events := st.events + (items.filterMap Handed.event?).length,
        warnings := st.warnings + (items.filterMap Handed.warning?).length } := by
  induction items generalizing st with
  | nil => rfl
  | cons h items ih =>
    rw [Stats.tallyAll, List.foldl_cons, ← Stats.tallyAll, ih]
    cases h with
    | event e =>
      simp [Stats.tally, Stats.count, Handed.event?, Handed.warning?, List.filterMap_cons]
      omega
    | warning w =>
      simp [Stats.tally, Stats.count, Handed.event?, Handed.warning?, List.filterMap_cons]
      omega

/-- Every item is an event or a warning, so the units are the events and the
warnings together. -/
theorem length_filterMap_event_add_warning (items : List Handed) :
    (items.filterMap Handed.event?).length + (items.filterMap Handed.warning?).length =
      items.length := by
  induction items with
  | nil => rfl
  | cons h items ih =>
    cases h with
    | event e => simp [Handed.event?, Handed.warning?, List.filterMap_cons]; omega
    | warning w => simp [Handed.event?, Handed.warning?, List.filterMap_cons]; omega

/-! ## One unit -/

namespace TextArtifact

/-- What a scan hands on for a unit, dated by `year`: a warning when the unit is
not valid UTF-8, when its text does not match the grammar, or when its event
cannot be made, and its event otherwise. -/
def outcome (a : TextArtifact) (year : Option Int) (u : TextUnit) : Handed :=
  if !u.validUtf8 then .warning ⟨a.name, .line u.line, u.text, "line is not valid UTF-8"⟩
  else
    match a.grammar.extract u.text year with
    | .error e => .warning ⟨a.name, .line u.line, u.text, e.message⟩
    | .ok record =>
      match a.emission.toEvent a.name (.line u.line) record a.hints with
      | .ok e => .event e
      | .error e => .warning ⟨a.name, .line u.line, u.text, e.message⟩

theorem run_of_exhausted (a : TextArtifact) {m : LineScanner} (hm : m.state = .exhausted) :
    a.run m = (m, none) := by
  rw [run, dif_pos hm]

theorem run_of_step_error (a : TextArtifact) {m : LineScanner} {e : SourceError}
    (hm : m.state ≠ .exhausted) (h : a.step m = .error e) : a.run m = (m, some e) := by
  rw [run, dif_neg hm]
  split <;> simp_all

theorem run_of_step_ok (a : TextArtifact) {m m' : LineScanner} (hm : m.state ≠ .exhausted)
    (h : a.step m = .ok m') : a.run m = a.run m' := by
  rw [run, dif_neg hm]
  split <;> simp_all

/-- A failed unit is handed on as a warning. -/
theorem step_unitFailed (a : TextArtifact) (m : LineScanner) (u : TextUnit) (message : String) :
    a.step { m with state := .unitFailed u message } =
      .ok { m with state := .readingUnit,
                   sink := m.sink.hand (.warning ⟨a.name, .line u.line, u.text, message⟩),
                   stats := m.stats.count (.warning ⟨a.name, .line u.line, u.text, message⟩) } := rfl

/-- A matched unit is handed on as its event, when the event can be made. -/
theorem step_unitMatched_of_ok (a : TextArtifact) (m : LineScanner) {u : TextUnit} {r : Record}
    {e : Event} (h : a.emission.toEvent a.name (.line u.line) r a.hints = .ok e) :
    a.step { m with state := .unitMatched u r } =
      .ok { m with state := .readingUnit, sink := m.sink.hand (.event e),
                   stats := m.stats.count (.event e) } := by
  simp only [step, h]
  rfl

/-- A matched unit whose event cannot be made fails, with the reason. -/
theorem step_unitMatched_of_error (a : TextArtifact) (m : LineScanner) {u : TextUnit} {r : Record}
    {e : EmitError} (h : a.emission.toEvent a.name (.line u.line) r a.hints = .error e) :
    a.step { m with state := .unitMatched u r } = .ok { m with state := .unitFailed u e.message } := by
  simp only [step, h]

/-- A unit just read is handed on, in one step or two, and the scan is back
between units. -/
theorem run_unitState (a : TextArtifact) (m : LineScanner) (u : TextUnit) :
    a.run { m with state := a.unitState m.year u } =
      a.run { m with state := .readingUnit, sink := m.sink.hand (a.outcome m.year u),
                     stats := m.stats.count (a.outcome m.year u) } := by
  cases hv : u.validUtf8 with
  | false =>
    have hs : a.unitState m.year u = .unitFailed u "line is not valid UTF-8" := by
      simp [unitState, hv]
    have ho : a.outcome m.year u =
        .warning ⟨a.name, .line u.line, u.text, "line is not valid UTF-8"⟩ := by
      simp [outcome, hv]
    rw [hs, ho, run_of_step_ok a (by simp) (step_unitFailed a m u _)]
  | true =>
    cases hx : a.grammar.extract u.text m.year with
    | error e =>
      have hs : a.unitState m.year u = .unitFailed u e.message := by simp [unitState, hv, hx]
      have ho : a.outcome m.year u = .warning ⟨a.name, .line u.line, u.text, e.message⟩ := by
        simp [outcome, hv, hx]
      rw [hs, ho, run_of_step_ok a (by simp) (step_unitFailed a m u _)]
    | ok r =>
      have hs : a.unitState m.year u = .unitMatched u r := by simp [unitState, hv, hx]
      rw [hs]
      cases he : a.emission.toEvent a.name (.line u.line) r a.hints with
      | ok e =>
        have ho : a.outcome m.year u = .event e := by simp [outcome, hv, hx, he]
        rw [ho, run_of_step_ok a (by simp) (step_unitMatched_of_ok a m he)]
      | error e =>
        -- the record matched, but its event cannot be made: a second step warns
        have ho : a.outcome m.year u = .warning ⟨a.name, .line u.line, u.text, e.message⟩ := by
          simp [outcome, hv, hx, he]
        rw [ho, run_of_step_ok a (by simp) (step_unitMatched_of_error a m he),
          run_of_step_ok a (by simp) (step_unitFailed a m u _)]

/-! ## A whole scan -/

/-- Between units, a scan reads the units of its source one after another and
hands on the outcome of each, until the data ends or a read fails. -/
theorem run_of_readingUnit (a : TextArtifact) (m : LineScanner) (hm : m.state = .readingUnit) :
    (a.run m).1.sink = m.sink.handAll ((a.readUnits m.source).1.map (a.outcome m.year)) ∧
      (a.run m).1.stats = m.stats.tallyAll ((a.readUnits m.source).1.map (a.outcome m.year)) ∧
      (a.run m).2 = (a.readUnits m.source).2 := by
  -- induction over the units read, for every scan between units over the source
  suffices ∀ (s : LineSource) (m : LineScanner), m.source = s → m.state = .readingUnit →
      (a.run m).1.sink = m.sink.handAll ((a.readUnits s).1.map (a.outcome m.year)) ∧
      (a.run m).1.stats = m.stats.tallyAll ((a.readUnits s).1.map (a.outcome m.year)) ∧
      (a.run m).2 = (a.readUnits s).2 from this _ m rfl hm
  intro s
  induction s using readUnits.induct a with
  | case1 s e h =>
    intro m hs hm
    have hstep : a.step m = .error e := by simp [step, hm, hs, h]
    rw [run_of_step_error a (by simp [hm]) hstep, readUnits_of_error a h]
    exact ⟨rfl, rfl, rfl⟩
  | case2 s h =>
    intro m hs hm
    have hstep : a.step m = .ok { m with state := .exhausted } := by simp [step, hm, hs, h]
    rw [run_of_step_ok a (by simp [hm]) hstep, run_of_exhausted a rfl, readUnits_of_none a h]
    exact ⟨rfl, rfl, rfl⟩
  | case3 s u s' h _ ih =>
    intro m hs hm
    -- the scan as it stands once the unit is read, and once it is handed on
    let m₁ : LineScanner :=
      { m with source := s', stats := { m.stats with units := m.stats.units + 1 } }
    let m₂ : LineScanner := { m₁ with state := .readingUnit, sink := m.sink.hand (a.outcome m.year u),
                                      stats := m₁.stats.count (a.outcome m.year u) }
    have hstep : a.step m = .ok { m₁ with state := a.unitState m₁.year u } := by
      simp [step, hm, hs, h, m₁]
    rw [run_of_step_ok a (by simp [hm]) hstep, run_unitState a m₁ u, readUnits_of_some a h]
    obtain ⟨h₁, h₂, h₃⟩ := ih m₂ rfl rfl
    exact ⟨h₁, h₂, h₃⟩

/-- A scan skips the preamble, then hands its sink the outcome of each unit it
reads, dated by the preamble's year; it succeeds, with the counts of those
units, unless a read fails. -/
theorem scanInto_eq (a : TextArtifact) (year : Option Int) (s : LineSource) (sink : Collected) :
    a.scanInto year s sink =
      match a.consumePreamble year s with
      | .error e => (.error e, sink)
      | .ok (y, s') =>
        (match (a.readUnits s').2 with
          | none => .ok (({} : Stats).tallyAll ((a.readUnits s').1.map (a.outcome y)))
          | some e => .error e,
          sink.handAll ((a.readUnits s').1.map (a.outcome y))) := by
  unfold scanInto
  cases hpre : a.consumePreamble year s with
  | error e =>
    have hstep : a.step { year, source := s, sink } = .error e := by simp [step, hpre]
    rw [run_of_step_error a (by simp) hstep]
  | ok r =>
    obtain ⟨y, s'⟩ := r
    have hstep : a.step { year, source := s, sink } =
        .ok { state := .readingUnit, year := y, source := s', sink } := by simp [step, hpre]
    obtain ⟨hsink, hstats, hfault⟩ :=
      run_of_readingUnit a { state := .readingUnit, year := y, source := s', sink } rfl
    rw [run_of_step_ok a (by simp) hstep]
    generalize a.run _ = r at hsink hstats hfault
    obtain ⟨m, fault⟩ := r
    dsimp only at hsink hstats hfault ⊢
    subst hfault
    cases (a.readUnits s').2 <;> simp [hsink, hstats]

/-- A scan of a source that ends cleanly succeeds: it hands its sink the
outcome of each unit of the text, dated by the preamble's year, and counts
them. -/
theorem scanInto_of_endsCleanly (a : TextArtifact) (year : Option Int) {s : LineSource}
    (sink : Collected) (hs : s.EndsCleanly) :
    a.scanInto year s sink =
      (.ok (({} : Stats).tallyAll
          ((a.segment s.pending).map (a.outcome (a.preambleYear year s.pending)))),
        sink.handAll ((a.segment s.pending).map (a.outcome (a.preambleYear year s.pending)))) := by
  have hs' : ({ s with pending := a.afterPreamble s.pending } : LineSource).EndsCleanly := hs
  rw [scanInto_eq, consumePreamble_of_endsCleanly a year hs]
  dsimp only
  rw [readUnits_of_endsCleanly a hs']
  rfl

/-! ## What each unit gives -/

/-- A unit makes event `e` when it is valid UTF-8, its text matches the grammar
with records dated by `year`, and the event of that record is `e`. -/
def MakesEvent (a : TextArtifact) (year : Option Int) (u : TextUnit) (e : Event) : Prop :=
  u.validUtf8 = true ∧ ∃ r, a.grammar.extract u.text year = .ok r ∧
    a.emission.toEvent a.name (.line u.line) r a.hints = .ok e

/-- What a scan must hand on for a unit: the event the unit makes, or, when it
makes none, a warning of the artifact at the unit's line with the unit's text. -/
def HandsOn (a : TextArtifact) (year : Option Int) (u : TextUnit) : Handed → Prop
  | .event e => a.MakesEvent year u e
  | .warning w => (∀ e, ¬ a.MakesEvent year u e) ∧
      w.artifact = a.name ∧ w.location = .line u.line ∧ w.unit = u.text

/-- The outcome of a unit is what a scan must hand on for it. -/
theorem handsOn_outcome (a : TextArtifact) (year : Option Int) (u : TextUnit) :
    a.HandsOn year u (a.outcome year u) := by
  cases hv : u.validUtf8 with
  | false => simp [outcome, HandsOn, MakesEvent, hv]
  | true =>
    cases hx : a.grammar.extract u.text year with
    | error e => simp [outcome, HandsOn, MakesEvent, hv, hx]
    | ok r =>
      cases he : a.emission.toEvent a.name (.line u.line) r a.hints with
      | ok e =>
        have ho : a.outcome year u = .event e := by simp [outcome, hv, hx, he]
        rw [ho]
        exact ⟨hv, r, hx, he⟩
      | error e => simp [outcome, HandsOn, MakesEvent, hv, hx, he]

/-- A unit that makes an event is handed on as that event. -/
theorem outcome_of_makesEvent {a : TextArtifact} {year : Option Int} {u : TextUnit} {e : Event}
    (h : a.MakesEvent year u e) : a.outcome year u = .event e := by
  obtain ⟨hv, r, hx, he⟩ := h
  simp [outcome, hv, hx, he]

/-- Units that each make an event are handed on as those events. -/
theorem map_outcome_of_makesEvent {a : TextArtifact} {year : Option Int} {us : List TextUnit}
    {events : List Event} (h : List.Forall₂ (a.MakesEvent year) us events) :
    us.map (a.outcome year) = events.map .event := by
  induction h with
  | nil => rfl
  | cons hu _ ih => rw [List.map_cons, List.map_cons, outcome_of_makesEvent hu, ih]

end TextArtifact

/-- An event is located where it was asked to be. -/
theorem Emission.location_of_toEvent {schema : Emission} {artifact : String} {location : Location}
    {record : Record} {hints : Time.TimeHints} {e : Event}
    (h : schema.toEvent artifact location record hints = .ok e) : e.location = location := by
  simp only [Emission.toEvent, bind, Except.bind, pure, Except.pure] at h
  split at h
  · cases h
  · cases h
    rfl

/-- Whatever a scan hands on for a unit is located at the unit's line. -/
theorem TextArtifact.HandsOn.location {a : TextArtifact} {year : Option Int} {u : TextUnit}
    {h : Handed} (hh : a.HandsOn year u h) : h.location = .line u.line := by
  cases h with
  | event e =>
    obtain ⟨_, r, _, he⟩ := hh
    exact Emission.location_of_toEvent he
  | warning w => exact hh.2.2.1

/-! ## Line numbers -/

@[simp] theorem number_pieceLine (number : Nat) (piece : List UInt8 × Bool) :
    (pieceLine number piece).number = number := by
  simp only [pieceLine]

theorem map_number_numberLines (first : Nat) (pieces : List (List UInt8 × Bool)) :
    (numberLines first pieces).map Line.number = List.range' first pieces.length := by
  induction pieces generalizing first with
  | nil => rfl
  | cons p ps ih => simp [numberLines, ih, List.range'_succ]

/-- The lines of a text are numbered in increasing order. -/
theorem pairwise_number_splitLines (bytes : List UInt8) :
    ((splitLines bytes).map Line.number).Pairwise (· < ·) := by
  rw [splitLines, map_number_numberLines]
  exact List.pairwise_lt_range'

namespace TextArtifact

/-- The units of some spans start at lines of the spans, in order. -/
theorem map_line_spans_sublist (a : TextArtifact) (ls : List Line) :
    (((a.spans ls).filterMap Span.unit?).map TextUnit.line).Sublist (ls.map Line.number) := by
  fun_induction a.spans ls with
  | case1 => simp
  | case2 l rest hb ih => simpa [List.filterMap_cons, Span.unit?] using ih.cons l.number
  | case3 l rest hb hv ih => simpa [List.filterMap_cons, Span.unit?] using ih.cons_cons l.number
  | case4 l rest hb hv hbd ih => simpa [List.filterMap_cons, Span.unit?] using ih.cons_cons l.number
  | case5 l rest hb hv b hbd ih =>
    -- a unit that takes the lines after its first skips their numbers
    have hrest : ((rest.dropWhile (continuesUnit b)).map Line.number).Sublist (rest.map Line.number) :=
      (List.dropWhile_sublist _).map _
    simpa [List.filterMap_cons, Span.unit?] using (ih.trans hrest).cons_cons l.number

/-- The units of a text start at lines of the text, in order. -/
theorem map_line_segment_sublist (a : TextArtifact) (ls : List Line) :
    ((a.segment ls).map TextUnit.line).Sublist (ls.map Line.number) := by
  have hafter : ((a.afterPreamble ls).map Line.number).Sublist (ls.map Line.number) := by
    unfold afterPreamble
    split
    · exact (List.dropWhile_sublist _).map _
    · exact List.Sublist.refl _
  exact (a.map_line_spans_sublist _).trans hafter

/-! ## A scan of a text -/

/-- A scan of a text into an empty sink succeeds and hands the sink exactly one
item for each unit of the text, in order: the event the unit makes, or, when it
makes none, a warning of the artifact at the unit's line with its text, records
without a year being dated by the preamble's year. The counts are those of the
units and of the events and warnings the sink holds, and the items stand at
strictly increasing lines. -/
theorem scanInto_hands_each_unit_once (a : TextArtifact) (year : Option Int) (bytes : List UInt8) :
    ∃ stats sink items,
      a.scanInto year (LineSource.ofBytes bytes) {} = (.ok stats, sink) ∧
      List.Forall₂ (a.HandsOn (a.preambleYear year (splitLines bytes)))
        (a.segment (splitLines bytes)) items ∧
      sink.events.toList = items.filterMap Handed.event? ∧
      sink.warnings.toList = items.filterMap Handed.warning? ∧
      stats.units = (a.segment (splitLines bytes)).length ∧
      stats.events = sink.events.size ∧ stats.warnings = sink.warnings.size ∧
      stats.units = stats.events + stats.warnings ∧
      items.map Handed.location = ((a.segment (splitLines bytes)).map TextUnit.line).map .line ∧
      ((a.segment (splitLines bytes)).map TextUnit.line).Pairwise (· < ·) := by
  have hs : (LineSource.ofBytes bytes).EndsCleanly := Or.inl rfl
  have hscan := a.scanInto_of_endsCleanly year {} hs
  rw [show (LineSource.ofBytes bytes).pending = splitLines bytes from rfl] at hscan
  -- the items handed on are the outcomes of the units of the text
  set items := (a.segment (splitLines bytes)).map (a.outcome (a.preambleYear year (splitLines bytes)))
  have hevents := handAll_events {} items
  have hwarnings := handAll_warnings {} items
  have hcount := length_filterMap_event_add_warning items
  refine ⟨_, _, items, hscan, ?hands, ?events, ?warnings, ?units, ?nevents, ?nwarnings, ?sum,
    ?lines, ?increasing⟩
  case hands =>
    exact List.forall₂_map_right_iff.mpr (List.forall₂_same.mpr fun u _ => a.handsOn_outcome _ u)
  case events => simpa using hevents
  case warnings => simpa using hwarnings
  case units => simp [tallyAll_eq, items]
  case nevents => simp [tallyAll_eq, ← Array.length_toList, hevents]
  case nwarnings => simp [tallyAll_eq, ← Array.length_toList, hwarnings]
  case sum => simp only [tallyAll_eq]; omega
  case lines =>
    simp only [items, List.map_map]
    exact List.map_congr_left fun u _ => (a.handsOn_outcome _ u).location
  case increasing =>
    exact (pairwise_number_splitLines bytes).sublist (a.map_line_segment_sublist _)

end TextArtifact

end Timeline
