import Timeline.Proofs.TextScan
import Timeline.Proofs.Extraction
/-!
# Building an event from a record

`Emission.toEvent` reads the declared attributes of an artifact, in order, from
the fields of a record. This file says what it gives for every schema and
every record.

* One attribute (`AttributeSpec.value`): an absent field gives an unset
  attribute, a text, an integer or a truth value is copied, and a time gives
  its timestamp (`AttributeOf`). The only failure is a time that does not
  normalize, reported under the attribute's name (`value_eq_error_iff`).
* The attributes in order (`readAttributes`, the fold of `Emission.toEvent`):
  reading stops at the first attribute whose time fails
  (`readAttributes_eq_error_iff`). Otherwise the map holds the names of the
  attributes and nothing else (`isSome_get?_readAttributes`), and a name holds
  what its last declaration read (`get?_readAttributes_of_last`).
* Fields that no attribute reads do not matter (`readAttributes_congr`).
* `Emission.emitRecord` hands the event on exactly when it is made, and
  otherwise leaves the sink as it was; a text scan's matched unit is handed on
  through it (`TextArtifact.step_unitMatched_emitRecord`).

`Emission.toEvent_maps_declared_attributes` gathers them.
-/

namespace Timeline

open Time

/-! ## One attribute -/

/-- The attribute that a field, or its absence, gives once its time has
normalized: no field gives an unset attribute, texts, integers and truth values
are copied, and a time gives its timestamp. -/
inductive AttributeOf (hints : TimeHints) : Option FieldValue → AttributeValue → Prop
  | absent : AttributeOf hints none .unset
  | str (s : String) : AttributeOf hints (some (.str s)) (.str s)
  | int (n : Int) : AttributeOf hints (some (.int n)) (.int n)
  | bool (b : Bool) : AttributeOf hints (some (.bool b)) (.bool b)
  | time {raw : RawTime} {t : Timestamp} (h : raw.normalize hints = .ok t) :
      AttributeOf hints (some (.time raw)) (.timestamp t)

namespace AttributeSpec

/-- The field an attribute reads holds a time that does not normalize, with
this error. -/
def TimeFails (spec : AttributeSpec) (hints : TimeHints) (record : Record) (e : TimeError) : Prop :=
  ∃ raw, record.get? spec.field = some (.time raw) ∧ raw.normalize hints = .error e

/-- A field fails with at most one error. -/
theorem TimeFails.unique {spec : AttributeSpec} {hints : TimeHints} {record : Record}
    {e e' : TimeError} (h : spec.TimeFails hints record e) (h' : spec.TimeFails hints record e') :
    e = e' := by
  obtain ⟨raw, hget, hraw⟩ := h
  obtain ⟨raw', hget', hraw'⟩ := h'
  rw [hget] at hget'
  cases hget'
  rw [hraw] at hraw'
  cases hraw'
  rfl

variable {spec : AttributeSpec} {hints : TimeHints} {record : Record}

/-- An attribute fails exactly when its field holds a time that does not
normalize, and the error carries the attribute's name. -/
theorem value_eq_error_iff (err : EmitError) :
    spec.value hints record = .error err ↔
      err.attributeName = spec.name ∧ spec.TimeFails hints record err.source := by
  unfold value TimeFails
  cases hget : record.get? spec.field with
  | none => simp
  | some field =>
    cases field with
    | str s => simp
    | int n => simp
    | bool b => simp
    | time raw =>
      obtain ⟨name, source⟩ := err
      cases hraw : raw.normalize hints with
      | ok t => simp [hraw]
      | error e =>
        simp only [hraw, Except.error.injEq, EmitError.mk.injEq, Option.some.injEq,
          FieldValue.time.injEq, exists_eq_left']
        constructor
        · rintro ⟨rfl, rfl⟩
          exact ⟨rfl, rfl⟩
        · rintro ⟨rfl, rfl⟩
          exact ⟨rfl, rfl⟩

/-- What an attribute reads is the attribute its field gives. -/
theorem attributeOf_of_value_eq_ok {v : AttributeValue} (h : spec.value hints record = .ok v) :
    AttributeOf hints (record.get? spec.field) v := by
  unfold value at h
  cases hget : record.get? spec.field with
  | none =>
    rw [hget] at h
    cases h
    exact .absent
  | some field =>
    rw [hget] at h
    cases field with
    | str s => cases h; exact .str s
    | int n => cases h; exact .int n
    | bool b => cases h; exact .bool b
    | time raw =>
      cases hraw : raw.normalize hints with
      | ok t =>
        simp only [hraw, Except.ok.injEq] at h
        subst h
        exact .time hraw
      | error e => simp [hraw] at h

/-- An attribute reads its own field and nothing else. -/
theorem value_congr {record' : Record} (h : record'.get? spec.field = record.get? spec.field) :
    spec.value hints record' = spec.value hints record := by
  unfold value
  rw [h]

end AttributeSpec

/-! ## The attributes in order -/

/-- Reads attributes in order into a map, each under its name; the first that
fails stops the reading. This is the fold of `Emission.toEvent`. -/
def readAttributes (hints : TimeHints) (record : Record) (specs : List AttributeSpec)
    (m : NameMap AttributeValue) : Except EmitError (NameMap AttributeValue) :=
  specs.foldlM (fun (m : NameMap AttributeValue) spec => do
    pure (m.insert spec.name (← spec.value hints record))) m

/-- The event of a record is made from the map that `readAttributes` reads. -/
theorem Emission.toEvent_eq (schema : Emission) (artifact : String) (location : Location)
    (record : Record) (hints : TimeHints) :
    schema.toEvent artifact location record hints =
      (readAttributes hints record schema.attributes NameMap.empty >>= fun attributes =>
        pure { artifact, dataType := schema.dataType, location, attributes }) := rfl

section Reading

variable {hints : TimeHints} {record : Record}

@[simp] theorem readAttributes_nil (m : NameMap AttributeValue) :
    readAttributes hints record [] m = .ok m := rfl

theorem readAttributes_cons (spec : AttributeSpec) (specs : List AttributeSpec)
    (m : NameMap AttributeValue) :
    readAttributes hints record (spec :: specs) m =
      match spec.value hints record with
      | .ok v => readAttributes hints record specs (m.insert spec.name v)
      | .error err => .error err := by
  unfold readAttributes
  rw [List.foldlM_cons]
  cases spec.value hints record <;> rfl

theorem readAttributes_append (specs specs' : List AttributeSpec) (m : NameMap AttributeValue) :
    readAttributes hints record (specs ++ specs') m =
      (readAttributes hints record specs m >>= readAttributes hints record specs') := by
  unfold readAttributes
  rw [List.foldlM_append]

/-- Reading fails exactly at the first attribute whose field holds a time that
does not normalize. -/
theorem readAttributes_eq_error_iff (specs : List AttributeSpec) (m : NameMap AttributeValue)
    (err : EmitError) :
    readAttributes hints record specs m = .error err ↔
      ∃ pre spec post, specs = pre ++ spec :: post ∧
        (∀ s ∈ pre, ∀ e, ¬ s.TimeFails hints record e) ∧
        err.attributeName = spec.name ∧ spec.TimeFails hints record err.source := by
  induction specs generalizing m with
  | nil => simp
  | cons spec specs ih =>
    rw [readAttributes_cons]
    cases hv : spec.value hints record with
    | error err' =>
      -- the head fails, so it is the first failure
      obtain ⟨hname, hfails⟩ := (AttributeSpec.value_eq_error_iff err').mp hv
      constructor
      · rintro ⟨⟩
        exact ⟨[], spec, specs, rfl, by simp, hname, hfails⟩
      · rintro ⟨pre, s, post, hsplit, hpre, hs, hsf⟩
        cases pre with
        | nil =>
          obtain ⟨rfl, rfl⟩ := List.cons.inj hsplit
          obtain ⟨name, source⟩ := err
          obtain ⟨name', source'⟩ := err'
          simp only at hname hs hfails hsf
          rw [hname, hs, hfails.unique hsf]
        | cons p pre =>
          have hp : spec = p := (List.cons.inj hsplit).1
          exact absurd hfails (hpre spec (List.mem_cons.mpr (.inl hp)) err'.source)
    | ok v =>
      -- the head is read, so the first failure lies in the rest
      have hok : ∀ e, ¬ spec.TimeFails hints record e := by
        intro e hf
        rw [(AttributeSpec.value_eq_error_iff ⟨spec.name, e⟩).mpr ⟨rfl, hf⟩] at hv
        cases hv
      rw [ih]
      constructor
      · rintro ⟨pre, s, post, rfl, hpre, hs⟩
        refine ⟨spec :: pre, s, post, rfl, ?_, hs⟩
        intro s' hs'
        rcases List.mem_cons.mp hs' with rfl | hs'
        · exact hok
        · exact hpre s' hs'
      · rintro ⟨pre, s, post, hsplit, hpre, hs, hsf⟩
        cases pre with
        | nil =>
          obtain ⟨rfl, -⟩ := List.cons.inj hsplit
          exact absurd hsf (hok _)
        | cons p pre =>
          obtain ⟨rfl, rfl⟩ := List.cons.inj hsplit
          exact ⟨pre, s, post, rfl, fun s' hs' => hpre s' (List.mem_cons_of_mem _ hs'), hs, hsf⟩

/-- Reading attributes none of whose fields holds a failing time succeeds. -/
theorem exists_readAttributes_eq_ok {specs : List AttributeSpec} (m : NameMap AttributeValue)
    (h : ∀ s ∈ specs, ∀ e, ¬ s.TimeFails hints record e) :
    ∃ m', readAttributes hints record specs m = .ok m' := by
  cases hr : readAttributes hints record specs m with
  | ok m' => exact ⟨m', rfl⟩
  | error err =>
    obtain ⟨pre, s, post, rfl, -, -, hs⟩ := (readAttributes_eq_error_iff _ m err).mp hr
    exact absurd hs (h s (by simp) _)

/-- A name that no attribute has keeps its entry. -/
theorem get?_readAttributes_of_forall_ne {specs : List AttributeSpec} {m m' : NameMap AttributeValue}
    {n : String} (hn : ∀ s ∈ specs, s.name ≠ n) (h : readAttributes hints record specs m = .ok m') :
    m'.get? n = m.get? n := by
  induction specs generalizing m with
  | nil =>
    cases h
    rfl
  | cons spec specs ih =>
    rw [readAttributes_cons] at h
    cases hv : spec.value hints record with
    | error err => rw [hv] at h; cases h
    | ok v =>
      rw [hv] at h
      rw [ih (fun s hs => hn s (List.mem_cons_of_mem _ hs)) h, NameMap.get?_insert,
        if_neg (hn spec List.mem_cons_self)]

/-- A name holds what its last attribute read. -/
theorem get?_readAttributes_of_last {pre post : List AttributeSpec} {spec : AttributeSpec}
    {m m' : NameMap AttributeValue} (hpost : ∀ s ∈ post, s.name ≠ spec.name)
    (h : readAttributes hints record (pre ++ spec :: post) m = .ok m') :
    ∃ v, m'.get? spec.name = some v ∧ spec.value hints record = .ok v := by
  rw [readAttributes_append] at h
  obtain ⟨m₁, -, h⟩ := exists_of_bind_eq_ok h
  rw [readAttributes_cons] at h
  cases hv : spec.value hints record with
  | error err => rw [hv] at h; cases h
  | ok v =>
    rw [hv] at h
    refine ⟨v, ?_, rfl⟩
    rw [get?_readAttributes_of_forall_ne hpost h, NameMap.get?_insert, if_pos rfl]

/-- The map read holds the names it held and those of the attributes, and no
other. -/
theorem isSome_get?_readAttributes {specs : List AttributeSpec} {m m' : NameMap AttributeValue}
    (h : readAttributes hints record specs m = .ok m') (n : String) :
    (m'.get? n).isSome ↔ (m.get? n).isSome ∨ ∃ s ∈ specs, s.name = n := by
  induction specs generalizing m with
  | nil =>
    cases h
    simp
  | cons spec specs ih =>
    rw [readAttributes_cons] at h
    cases hv : spec.value hints record with
    | error err => rw [hv] at h; cases h
    | ok v =>
      rw [hv] at h
      rw [ih h, NameMap.get?_insert]
      by_cases hn : spec.name = n
      · simp [hn]
      · simp [hn]

/-- Records that agree on the fields the attributes read give the same reading. -/
theorem readAttributes_congr {specs : List AttributeSpec} {record' : Record}
    (h : ∀ s ∈ specs, record'.get? s.field = record.get? s.field) (m : NameMap AttributeValue) :
    readAttributes hints record' specs m = readAttributes hints record specs m := by
  induction specs generalizing m with
  | nil => rfl
  | cons spec specs ih =>
    rw [readAttributes_cons, readAttributes_cons,
      AttributeSpec.value_congr (h spec List.mem_cons_self)]
    cases spec.value hints record with
    | error err => rfl
    | ok v => exact ih (fun s hs => h s (List.mem_cons_of_mem _ hs)) _

end Reading

/-! ## Handing the event on -/

namespace Emission

variable (schema : Emission) (artifact : String) (location : Location) (record : Record)
  (hints : TimeHints)

theorem emitRecord_of_ok {e : Event} (h : schema.toEvent artifact location record hints = .ok e)
    (sink : Collected) :
    schema.emitRecord artifact location record hints sink = (.ok (), sink.emit e) := by
  simp only [emitRecord, h]

theorem emitRecord_of_error {err : EmitError}
    (h : schema.toEvent artifact location record hints = .error err) (sink : Collected) :
    schema.emitRecord artifact location record hints sink = (.error err, sink) := by
  simp only [emitRecord, h]

end Emission

/-- A text scan hands a matched unit on through `Emission.emitRecord`: the sink
it leaves is the scan's, and a failed event turns the unit into a failure. -/
theorem TextArtifact.step_unitMatched_emitRecord (a : TextArtifact) (m : LineScanner) (u : TextUnit)
    (r : Record) :
    a.step { m with state := .unitMatched u r } =
      match a.emission.emitRecord a.name (.line u.line) r a.hints m.sink with
      | (.ok (), sink) =>
        .ok { m with state := .readingUnit, sink,
                     stats := { m.stats with events := m.stats.events + 1 } }
      | (.error err, _) => .ok { m with state := .unitFailed u err.message } := by
  cases he : a.emission.toEvent a.name (.line u.line) r a.hints with
  | ok e =>
    rw [Emission.emitRecord_of_ok _ _ _ _ _ he, TextArtifact.step_unitMatched_of_ok a m he]
    rfl
  | error err =>
    rw [Emission.emitRecord_of_error _ _ _ _ _ he, TextArtifact.step_unitMatched_of_error a m he]

/-! ## The event -/

/-- The event of a record has exactly the declared attributes and fails as a
whole at the first declared time that does not normalize. It fails, with that
attribute's name and the time's error, exactly when some attribute reads a
field holding a time that does not normalize. Otherwise it is made, with the
artifact, data type and location given; its attributes are the declared names
and no other, and each name holds what its last declaration reads: unset for
an absent field, the copied text, integer or truth value, or the normalized
time. Fields that no attribute reads do not matter. The event is handed to
the sink exactly when it is made; a failure leaves the sink as it was. -/
theorem Emission.toEvent_maps_declared_attributes (schema : Emission) (artifact : String)
    (location : Location) (record : Record) (hints : TimeHints) :
    (∀ err, schema.toEvent artifact location record hints = .error err ↔
      ∃ pre spec post, schema.attributes = pre ++ spec :: post ∧
        (∀ s ∈ pre, ∀ e, ¬ s.TimeFails hints record e) ∧
        err.attributeName = spec.name ∧ spec.TimeFails hints record err.source) ∧
    ((∀ spec ∈ schema.attributes, ∀ e, ¬ spec.TimeFails hints record e) →
      ∃ ev, schema.toEvent artifact location record hints = .ok ev ∧
        ev.artifact = artifact ∧ ev.dataType = schema.dataType ∧ ev.location = location ∧
        (∀ n, n ∈ ev.attributes.keys ↔ ∃ spec ∈ schema.attributes, spec.name = n) ∧
        (∀ pre spec post, schema.attributes = pre ++ spec :: post →
          (∀ s ∈ post, s.name ≠ spec.name) →
          ∃ v, ev.attributes.get? spec.name = some v ∧ AttributeOf hints (record.get? spec.field) v) ∧
        ∀ sink, schema.emitRecord artifact location record hints sink = (.ok (), sink.emit ev)) ∧
    (∀ err, schema.toEvent artifact location record hints = .error err →
      ∀ sink, schema.emitRecord artifact location record hints sink = (.error err, sink)) ∧
    ∀ record', (∀ spec ∈ schema.attributes, record'.get? spec.field = record.get? spec.field) →
      schema.toEvent artifact location record' hints = schema.toEvent artifact location record hints := by
  refine ⟨fun err => ?_, fun hgood => ?_, fun err h => schema.emitRecord_of_error artifact location record hints h,
    fun record' h => ?_⟩
  · rw [toEvent_eq, ← readAttributes_eq_error_iff schema.attributes NameMap.empty err]
    cases readAttributes hints record schema.attributes NameMap.empty <;> simp [bind, Except.bind, pure, Except.pure]
  · obtain ⟨attributes, hread⟩ := exists_readAttributes_eq_ok NameMap.empty hgood
    have hev : schema.toEvent artifact location record hints =
        .ok { artifact, dataType := schema.dataType, location, attributes } := by
      rw [toEvent_eq, hread]
      rfl
    refine ⟨_, hev, rfl, rfl, rfl, fun n => ?_, fun pre spec post hsplit hpost => ?_,
      schema.emitRecord_of_ok artifact location record hints hev⟩
    · rw [NameMap.mem_keys, isSome_get?_readAttributes hread]
      simp
    · rw [hsplit] at hread
      obtain ⟨v, hget, hv⟩ := get?_readAttributes_of_last hpost hread
      exact ⟨v, hget, AttributeSpec.attributeOf_of_value_eq_ok hv⟩
  · rw [toEvent_eq, toEvent_eq, readAttributes_congr h]

/-- The emission of a shell entry: its command, its time read under another
name, and its exit code. -/
def shellEntryEmission : Emission :=
  ⟨"test:entry", [.same "command", ⟨"last_written_time", "timestamp"⟩, .same "exit_code"]⟩

/-- A shell entry with a command and a time, and without an exit code. -/
def shellEntryRecord : Record :=
  (NameMap.empty.insert "command" (.str "ls -la")).insert "timestamp" (.time (.epochSeconds 1673))

/-- The same entry with a field that no attribute reads. -/
def shellEntryScratchRecord : Record :=
  shellEntryRecord.insert "scratch" (.int 7)

/-- A shell entry whose time is read under another name, whose exit code is
absent, and which carries a field no attribute reads: its event is made, and it
is the event of the entry without that field. -/
theorem Emission.toEvent_shell_entry :
    (∀ spec ∈ shellEntryEmission.attributes, ∀ e, ¬ spec.TimeFails {} shellEntryScratchRecord e) ∧
    (∃ ev, shellEntryEmission.toEvent "test" (.line 1) shellEntryScratchRecord {} = .ok ev ∧
      ev.artifact = "test" ∧ ev.dataType = shellEntryEmission.dataType ∧ ev.location = .line 1 ∧
      (∀ n, n ∈ ev.attributes.keys ↔ ∃ spec ∈ shellEntryEmission.attributes, spec.name = n) ∧
      (∀ pre spec post, shellEntryEmission.attributes = pre ++ spec :: post →
        (∀ s ∈ post, s.name ≠ spec.name) →
        ∃ v, ev.attributes.get? spec.name = some v ∧
          AttributeOf {} (shellEntryScratchRecord.get? spec.field) v) ∧
      ∀ sink, shellEntryEmission.emitRecord "test" (.line 1) shellEntryScratchRecord {} sink =
        (.ok (), sink.emit ev)) ∧
    (∀ spec ∈ shellEntryEmission.attributes,
      shellEntryRecord.get? spec.field = shellEntryScratchRecord.get? spec.field) ∧
    shellEntryEmission.toEvent "test" (.line 1) shellEntryRecord {} =
      shellEntryEmission.toEvent "test" (.line 1) shellEntryScratchRecord {} := by
  have hgood : ∀ spec ∈ shellEntryEmission.attributes, ∀ e,
      ¬ spec.TimeFails {} shellEntryScratchRecord e := by
    rintro spec hspec e ⟨raw, hget, hnorm⟩
    simp only [shellEntryEmission, List.mem_cons, List.not_mem_nil, or_false] at hspec
    rcases hspec with rfl | rfl | rfl
    · simp [AttributeSpec.same, shellEntryScratchRecord, shellEntryRecord] at hget
    · simp [shellEntryScratchRecord, shellEntryRecord] at hget
      subst hget
      cases hnorm
    · simp [AttributeSpec.same, shellEntryScratchRecord, shellEntryRecord] at hget
  have hsame : ∀ spec ∈ shellEntryEmission.attributes,
      shellEntryRecord.get? spec.field = shellEntryScratchRecord.get? spec.field := by
    intro spec hspec
    simp only [shellEntryEmission, List.mem_cons, List.not_mem_nil, or_false] at hspec
    rcases hspec with rfl | rfl | rfl <;> simp [AttributeSpec.same, shellEntryScratchRecord, shellEntryRecord]
  have h := Emission.toEvent_maps_declared_attributes shellEntryEmission "test" (.line 1)
    shellEntryScratchRecord {}
  exact ⟨hgood, h.2.1 hgood, hsame, h.2.2.2 _ hsame⟩

end Timeline
