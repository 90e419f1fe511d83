import Timeline.Row.Scan
import Timeline.Artifact.Databases
/-!
# The schema a row artifact requires

A row artifact names the tables it reads and the columns it needs in each.
`missingRequirement` checks a catalog against them, table by table in the
order of declaration; both detection (`RowArtifact.detect`) and the gate at
the start of a scan (`RowArtifact.scanInto`) rest on it.

* It finds nothing exactly when the catalog meets every required table
  (`missingRequirement_eq_none_iff`), and otherwise describes the first table
  it does not meet: absent, or lacking a column, named by the first such
  column (`missingRequirement_eq_some_iff`).
* A catalog with more tables or more columns meets whatever a smaller one
  meets (`missingRequirement_eq_none_of_extends`).
* Detection claims a source exactly when the scan of it passes the gate: a
  scan that breaks the schema contract whatever its queries answer is exactly
  one whose catalog fails (`RowArtifact.detect_eq_ok_true_iff`).

`schema_detection_exact` gathers them.
-/

namespace Timeline

namespace RequiredTable

/-- A catalog meets a required table when it has the table with every required
column. -/
def MetBy (t : RequiredTable) (catalog : Catalog) : Prop :=
  ∃ columns, catalog.get? t.name = some columns ∧ ∀ c ∈ t.columns, c ∈ columns

/-- How a catalog fails a required table, and the detail that says so: the
table is absent, or it lacks a column and the first such column is named. -/
def FailsWith (t : RequiredTable) (catalog : Catalog) (detail : String) : Prop :=
  (catalog.get? t.name = none ∧ detail = "table `" ++ t.name ++ "` is missing") ∨
  ∃ columns pre c post, catalog.get? t.name = some columns ∧ t.columns = pre ++ c :: post ∧
    (∀ x ∈ pre, x ∈ columns) ∧ c ∉ columns ∧
    detail = "table `" ++ t.name ++ "` has no column `" ++ c ++ "`"

/-- What a catalog lacks of one required table, described: the table itself,
or the first of its required columns that the table lacks. -/
def problem? (t : RequiredTable) (catalog : Catalog) : Option String :=
  match catalog.get? t.name with
  | none => some ("table `" ++ t.name ++ "` is missing")
  | some columns =>
    (t.columns.find? (fun c => !columns.contains c)).map fun c =>
      "table `" ++ t.name ++ "` has no column `" ++ c ++ "`"

variable {t : RequiredTable} {catalog : Catalog}

theorem find?_not_contains_eq_some_iff (columns : List String) (c : String) :
    t.columns.find? (fun c => !columns.contains c) = some c ↔
      c ∉ columns ∧ ∃ pre post, t.columns = pre ++ c :: post ∧ ∀ x ∈ pre, x ∈ columns := by
  simp [List.find?_eq_some_iff_append]

/-- A table lacks nothing exactly when the catalog meets it. -/
theorem problem?_eq_none_iff : t.problem? catalog = none ↔ t.MetBy catalog := by
  unfold problem? MetBy
  cases hget : catalog.get? t.name with
  | none => simp
  | some columns => simp

/-- The description of what a table lacks is the detail of how the catalog
fails it. -/
theorem problem?_eq_some_iff (detail : String) :
    t.problem? catalog = some detail ↔ t.FailsWith catalog detail := by
  unfold problem? FailsWith
  cases hget : catalog.get? t.name with
  | none =>
    simp only [Option.some.injEq, true_and, reduceCtorEq, false_and, exists_false, or_false]
    exact eq_comm
  | some columns =>
    simp only [reduceCtorEq, false_and, Option.some.injEq, exists_and_left, exists_eq_left',
      false_or, Option.map_eq_some_iff]
    constructor
    · rintro ⟨c, hfind, rfl⟩
      obtain ⟨hc, pre, post, hsplit, hpre⟩ := (find?_not_contains_eq_some_iff columns c).mp hfind
      exact ⟨pre, c, post, hsplit, hpre, hc, rfl⟩
    · rintro ⟨pre, c, post, hsplit, hpre, hc, rfl⟩
      exact ⟨c, (find?_not_contains_eq_some_iff columns c).mpr ⟨hc, pre, post, hsplit, hpre⟩, rfl⟩

end RequiredTable

/-- The requirements are checked table by table, in order: the result is the
description of the first table that lacks something. -/
theorem missingRequirement_eq_findSome? (required : List RequiredTable) (catalog : Catalog) :
    missingRequirement required catalog = required.findSome? (·.problem? catalog) := by
  induction required with
  | nil => rfl
  | cons t ts ih =>
    rw [List.findSome?_cons, ← ih]
    simp only [missingRequirement, RequiredTable.problem?]
    cases catalog.get? t.name with
    | none => rfl
    | some columns =>
      simp only
      cases t.columns.find? (fun c => !columns.contains c) <;> rfl

/-! ## The first requirement not met -/

variable {catalog : Catalog}

/-- Nothing is missing exactly when every required table is met. -/
theorem missingRequirement_eq_none_iff (required : List RequiredTable) :
    missingRequirement required catalog = none ↔ ∀ t ∈ required, t.MetBy catalog := by
  simp only [missingRequirement_eq_findSome?, List.findSome?_eq_none_iff,
    RequiredTable.problem?_eq_none_iff]

/-- The detail describes the first required table that the catalog does not
meet. -/
theorem missingRequirement_eq_some_iff (required : List RequiredTable) (detail : String) :
    missingRequirement required catalog = some detail ↔
      ∃ pre t post, required = pre ++ t :: post ∧ t.FailsWith catalog detail ∧
        ∀ t' ∈ pre, t'.MetBy catalog := by
  simp only [missingRequirement_eq_findSome?, List.findSome?_eq_some_iff,
    RequiredTable.problem?_eq_some_iff, RequiredTable.problem?_eq_none_iff]

/-! ## Larger catalogs -/

/-- A catalog extends another when it has each of its tables with at least
their columns. -/
def Catalog.Extends (catalog catalog' : Catalog) : Prop :=
  ∀ name columns, catalog.get? name = some columns →
    ∃ columns', catalog'.get? name = some columns' ∧ columns ⊆ columns'

theorem RequiredTable.MetBy.of_extends {t : RequiredTable} {catalog' : Catalog}
    (h : t.MetBy catalog) (hext : catalog.Extends catalog') : t.MetBy catalog' := by
  obtain ⟨columns, hget, hcols⟩ := h
  obtain ⟨columns', hget', hsub⟩ := hext t.name columns hget
  exact ⟨columns', hget', fun c hc => hsub (hcols c hc)⟩

/-- What a catalog meets, every catalog extending it meets. -/
theorem missingRequirement_eq_none_of_extends {required : List RequiredTable} {catalog' : Catalog}
    (h : missingRequirement required catalog = none) (hext : catalog.Extends catalog') :
    missingRequirement required catalog' = none := by
  rw [missingRequirement_eq_none_iff] at h ⊢
  exact fun t ht => (h t ht).of_extends hext

/-! ## Detection and the gate of a scan -/

namespace RowArtifact

variable (a : RowArtifact)

/-- Queries that answer with no rows leave a scan as it was. -/
theorem scanQueries_of_no_rows (tables : Except SourceError Catalog) (qs : List (RowQuery × Nat))
    (acc : RowScan) :
    a.scanQueries ⟨tables, fun _ => .ok []⟩ qs acc = (acc, none) := by
  induction qs with
  | nil => rfl
  | cons qi qs ih =>
    obtain ⟨q, i⟩ := qi
    simp only [scanQueries, scanRows]
    exact ih

/-- A catalog that fails the requirements stops the scan with its detail, before
any query runs: whatever the queries answer, the sink is left as it was. -/
theorem scanInto_of_missing {src : RowSource} {detail : String} (hsrc : src.tables = .ok catalog)
    (hd : missingRequirement a.required catalog = some detail) (sink : Collected) :
    a.scanInto src sink = (.error (.contract a.name detail), sink) := by
  simp only [scanInto, hsrc, hd]

theorem detect_eq {src : RowSource} (hsrc : src.tables = .ok catalog) :
    a.detect src = .ok (missingRequirement a.required catalog).isNone := by
  simp only [detect, hsrc]
  rfl

/-- Detection claims a source exactly when a scan of it does not break the
schema contract whatever its queries answer. -/
theorem detect_eq_ok_true_iff {src : RowSource} (hsrc : src.tables = .ok catalog) :
    a.detect src = .ok true ↔
      ¬ ∃ detail, ∀ rows sink, a.scanInto ⟨src.tables, rows⟩ sink =
        (.error (.contract a.name detail), sink) := by
  rw [detect_eq a hsrc]
  cases hd : missingRequirement a.required catalog with
  | none =>
    simp only [Option.isNone_none, true_iff, not_exists]
    intro detail hgate
    have := hgate (fun _ => .ok []) {}
    simp only [scanInto, hsrc, hd, scanQueries_of_no_rows] at this
    cases this
  | some detail =>
    simp only [Option.isNone_some, Except.ok.injEq, Bool.false_eq_true, false_iff]
    exact fun hnot => hnot ⟨detail, fun rows sink =>
      a.scanInto_of_missing (show (⟨src.tables, rows⟩ : RowSource).tables = .ok catalog from hsrc) hd sink⟩

end RowArtifact

/-- Schema detection is exact, reports the first failure and only grows with
the catalog. Nothing is missing exactly when the catalog has every required
table with every required column; otherwise the detail describes the first
required table, in order, that the catalog lacks or, when that table lacks a
column, the first such column. A catalog with more tables or columns meets
what a smaller one meets. For every row artifact and every source with this
catalog, detection claims the source exactly when its scan does not break the
schema contract before reading any row. -/
theorem schema_detection_exact (required : List RequiredTable) (catalog : Catalog) :
    (missingRequirement required catalog = none ↔ ∀ t ∈ required, t.MetBy catalog) ∧
    (∀ detail, missingRequirement required catalog = some detail ↔
      ∃ pre t post, required = pre ++ t :: post ∧ t.FailsWith catalog detail ∧
        ∀ t' ∈ pre, t'.MetBy catalog) ∧
    (missingRequirement required catalog = none →
      ∀ catalog', catalog.Extends catalog' → missingRequirement required catalog' = none) ∧
    ∀ (a : RowArtifact) (src : RowSource), src.tables = .ok catalog →
      (a.detect src = .ok true ↔
        ¬ ∃ detail, ∀ rows sink, a.scanInto ⟨src.tables, rows⟩ sink =
          (.error (.contract a.name detail), sink)) :=
  ⟨missingRequirement_eq_none_iff required, missingRequirement_eq_some_iff required,
    fun h _ hext => missingRequirement_eq_none_of_extends h hext,
    fun a _ hsrc => a.detect_eq_ok_true_iff hsrc⟩

/-- A database with both tables of Apple Notes, the notes table with a column
that Apple Notes does not read. -/
def notesCatalog : Catalog :=
  NameMap.ofList [("ZNOTE", ["Z_PK", "ZTITLE", "ZDATECREATED", "ZDATEEDITED", "ZFOLDER"]),
    ("ZNOTEBODY", ["Z_PK", "ZNOTE", "ZHTMLSTRING"])]

/-- A source with that catalog and no rows. -/
def notesSource : RowSource := ⟨.ok notesCatalog, fun _ => .ok []⟩

/-- Apple Notes against a database with both of its tables, one of them with a
column it does not read: nothing is missing, every larger database meets it
too, and detection claims a source with that catalog. -/
theorem macNotes_schema_met :
    missingRequirement Builtin.macNotes.required notesCatalog = none ∧
    (∀ catalog', notesCatalog.Extends catalog' →
      missingRequirement Builtin.macNotes.required catalog' = none) ∧
    notesSource.tables = .ok notesCatalog ∧
    (Builtin.macNotes.detect notesSource = .ok true ↔
      ¬ ∃ detail, ∀ rows sink, Builtin.macNotes.scanInto ⟨.ok notesCatalog, rows⟩ sink =
        (.error (.contract Builtin.macNotes.name detail), sink)) := by
  have hmet : missingRequirement Builtin.macNotes.required notesCatalog = none := by decide
  have h := schema_detection_exact Builtin.macNotes.required notesCatalog
  exact ⟨hmet, h.2.2.1 hmet, rfl, h.2.2.2 Builtin.macNotes notesSource rfl⟩

end Timeline
