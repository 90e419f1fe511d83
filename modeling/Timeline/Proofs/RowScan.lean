import Timeline.Row.Scan
import Timeline.Proofs.TextScan
/-!
# What a row scan hands on

A row artifact reads a database whose catalog and query answers are given.
This module states what its scan does with every row.

* The record of a row (`RowQuery.extract_eq`): the first declared column, in
  order, that the row lacks or whose value does not coerce stops it
  (`RowQuery.firstProblem`); otherwise it is the query's derivation applied to
  the fields of the columns that coerce to a value (`RowQuery.coerced`).
* The rows a scan reaches (`RowArtifact.visits`): the queries in order, the
  rows of each in order, numbered from 0 within each query. For each row it
  hands on one item, or breaks the schema contract when the row lacks a
  declared column (`RowArtifact.rowItem`, `RowArtifact.HandsOn`).
* A scan, one row at a time (`RowArtifact.scanRows_cons`) and over whole queries
  (`RowArtifact.scanRows_eq`, `RowArtifact.scanQueries_eq`), hands on the items
  of the rows up to the first that breaks the contract.

The main statement is `RowArtifact.scan_hands_on_each_row`: a scan into an
empty sink first checks the catalog against the artifact's requirements and,
when it passes, hands on exactly one item for each row it reaches, at the
row's place, until a row that lacks a declared column ends it.
-/

namespace Timeline

/-! ## The record of a row -/

namespace RowQuery

/-- What stops a declared column of a row from giving its field: the row lacks
it, or its value does not coerce. -/
def columnProblem (row : Row) (spec : ColumnSpec) : Option RowProblem :=
  match row spec.column with
  | none => some (.missingColumn spec.column)
  | some v =>
    match spec.kind.coerce v with
    | .error reason => some (.coercion spec.column reason)
    | .ok _ => none

/-- The first declared column, in order, that a row lacks or whose value does
not coerce. -/
def firstProblem (q : RowQuery) (row : Row) : Option RowProblem :=
  q.columns.findSome? (columnProblem row)

/-- Adds the field of a declared column of a row, when its value coerces to one. -/
def addField (row : Row) (record : Record) (spec : ColumnSpec) : Record :=
  match row spec.column with
  | some v =>
    match spec.kind.coerce v with
    | .ok (some x) => record.insert spec.field x
    | _ => record
  | none => record

/-- The fields of a row: those of its declared columns whose values coerce to
one, added in order. -/
def coerced (q : RowQuery) (row : Row) : Record :=
  q.columns.foldl (addField row) NameMap.empty

/-- Reading the declared columns in order stops at the first problem, and
otherwise adds every field. -/
theorem foldlM_readColumn (row : Row) (columns : List ColumnSpec) (record : Record) :
    columns.foldlM (readColumn row) record =
      match columns.findSome? (columnProblem row) with
      | some p => .error p
      | none => .ok (columns.foldl (addField row) record) := by
  induction columns generalizing record with
  | nil => rfl
  | cons spec columns ih =>
    simp only [List.foldlM_cons, List.findSome?_cons, List.foldl_cons]
    cases hv : row spec.column with
    | none => simp [readColumn, columnProblem, hv, bind, Except.bind, throw, throwThe,
        MonadExceptOf.throw]
    | some v =>
      cases hc : spec.kind.coerce v with
      | error reason => simp [readColumn, columnProblem, hv, hc, bind, Except.bind, throw, throwThe,
          MonadExceptOf.throw]
      | ok x =>
        -- the column gives its field, if any, and reading goes on
        have hnone : columnProblem row spec = none := by simp [columnProblem, hv, hc]
        have hread : readColumn row record spec = .ok (addField row record spec) := by
          cases x <;> simp [readColumn, addField, hv, hc, pure, Except.pure]
        rw [hread, hnone]
        exact ih _

/-- The record of a row is the derivation applied to its fields, unless a
declared column is missing or does not coerce: the first such column stops it. -/
theorem extract_eq (q : RowQuery) (row : Row) :
    q.extract row =
      match q.firstProblem row with
      | some p => .error p
      | none => .ok (q.finish (q.coerced row)) := by
  unfold extract firstProblem coerced
  rw [bind, Monad.toBind, Except.instMonad]
  simp only
  rw [foldlM_readColumn]
  cases q.columns.findSome? (columnProblem row) <;> rfl

end RowQuery

/-! ## The rows a scan reaches -/

/-- A row as a scan reaches it: row `rowIndex` of query `queryIndex`. -/
structure RowVisit where
  queryIndex : Nat
  query : RowQuery
  rowIndex : Nat
  row : Row

/-- Where a row is found. -/
def RowVisit.location (v : RowVisit) : Location :=
  .row v.queryIndex v.rowIndex

/-- The rows of query `i`, numbered from `first`. -/
def RowVisit.ofRows (i : Nat) (q : RowQuery) (rows : List Row) (first : Nat) : List RowVisit :=
  (rows.zipIdx first).map fun (row, j) => ⟨i, q, j, row⟩

@[simp] theorem RowVisit.ofRows_nil (i : Nat) (q : RowQuery) (first : Nat) :
    RowVisit.ofRows i q [] first = [] := rfl

@[simp] theorem RowVisit.ofRows_cons (i : Nat) (q : RowQuery) (row : Row) (rows : List Row)
    (first : Nat) :
    RowVisit.ofRows i q (row :: rows) first = ⟨i, q, first, row⟩ :: RowVisit.ofRows i q rows (first + 1) :=
  rfl

/-- The rows of queries, each with its index, in order, when every query answers
with `rowsOf` its SQL. -/
def RowVisit.ofQueries (rowsOf : String → List Row) (qs : List (RowQuery × Nat)) : List RowVisit :=
  qs.flatMap fun qi => RowVisit.ofRows qi.2 qi.1 (rowsOf qi.1.sql) 0

@[simp] theorem RowVisit.ofQueries_nil (rowsOf : String → List Row) :
    RowVisit.ofQueries rowsOf [] = [] := rfl

@[simp] theorem RowVisit.ofQueries_cons (rowsOf : String → List Row) (q : RowQuery) (i : Nat)
    (qs : List (RowQuery × Nat)) :
    RowVisit.ofQueries rowsOf ((q, i) :: qs) =
      RowVisit.ofRows i q (rowsOf q.sql) 0 ++ RowVisit.ofQueries rowsOf qs := rfl

/-- A source with a catalog whose every query answers with `rowsOf` its SQL. -/
def RowSource.ofRows (catalog : Catalog) (rowsOf : String → List Row) : RowSource :=
  { tables := .ok catalog, rows := fun sql => .ok (rowsOf sql) }

@[simp] theorem RowSource.tables_ofRows (catalog : Catalog) (rowsOf : String → List Row) :
    (RowSource.ofRows catalog rowsOf).tables = .ok catalog := rfl

@[simp] theorem RowSource.rows_ofRows (catalog : Catalog) (rowsOf : String → List Row) (sql : String) :
    (RowSource.ofRows catalog rowsOf).rows sql = .ok (rowsOf sql) := rfl

/-- A row scan after handing on one more item, counted. -/
def RowScan.hand (acc : RowScan) (h : Handed) : RowScan :=
  { collected := acc.collected.hand h, stats := acc.stats.tally h }

/-- A row scan after handing on items in order, counted. -/
def RowScan.handAll (acc : RowScan) (items : List Handed) : RowScan :=
  { collected := acc.collected.handAll items, stats := acc.stats.tallyAll items }

theorem RowScan.handAll_cons (acc : RowScan) (h : Handed) (items : List Handed) :
    acc.handAll (h :: items) = (acc.hand h).handAll items := rfl

theorem Collected.handAll_append (c : Collected) (items items' : List Handed) :
    c.handAll (items ++ items') = (c.handAll items).handAll items' :=
  List.foldl_append

theorem RowScan.handAll_append (acc : RowScan) (items items' : List Handed) :
    acc.handAll (items ++ items') = (acc.handAll items).handAll items' := by
  simp only [RowScan.handAll, Collected.handAll_append, Stats.tallyAll, List.foldl_append]

namespace RowArtifact

/-- The rows a scan reaches when every query answers with `rowsOf` its SQL: the
queries in order, and the rows of each in order, numbered from 0. -/
def visits (a : RowArtifact) (rowsOf : String → List Row) : List RowVisit :=
  RowVisit.ofQueries rowsOf a.queries.zipIdx

/-- The warning of a row that gives no event. -/
def rowWarning (a : RowArtifact) (v : RowVisit) (message : String) : Warning :=
  ⟨a.name, v.location, describeRow v.query.columns v.row, message⟩

/-- What a scan hands on for a row, or the detail of the contract it breaks. -/
def rowItem (a : RowArtifact) (v : RowVisit) : Except String Handed :=
  match v.query.extract v.row with
  | .error (.missingColumn c) =>
    .error ("query " ++ toString v.queryIndex ++ " returned no column `" ++ c ++ "`")
  | .error (.coercion c reason) => .ok (.warning (a.rowWarning v ("column `" ++ c ++ "`: " ++ reason)))
  | .ok record =>
    match a.emission.toEvent a.name v.location record a.hints with
    | .ok e => .ok (.event e)
    | .error e => .ok (.warning (a.rowWarning v e.message))

/-- The items a scan hands on for rows, in order, up to the first row that breaks
the contract, and the detail of that break. -/
def itemsOf (a : RowArtifact) : List RowVisit → List Handed × Option String
  | [] => ([], none)
  | v :: vs =>
    match a.rowItem v with
    | .error d => ([], some d)
    | .ok h => (h :: (a.itemsOf vs).1, (a.itemsOf vs).2)

theorem itemsOf_append_of_none (a : RowArtifact) {vs : List RowVisit} (ws : List RowVisit)
    (h : (a.itemsOf vs).2 = none) :
    a.itemsOf (vs ++ ws) = ((a.itemsOf vs).1 ++ (a.itemsOf ws).1, (a.itemsOf ws).2) := by
  induction vs with
  | nil => rfl
  | cons v vs ih =>
    rw [List.cons_append]
    simp only [itemsOf] at h ⊢
    cases hv : a.rowItem v with
    | error d => simp [hv] at h
    | ok item =>
      simp only [hv] at h ⊢
      rw [ih h, List.cons_append]

theorem itemsOf_append_of_some (a : RowArtifact) {vs : List RowVisit} (ws : List RowVisit)
    {d : String} (h : (a.itemsOf vs).2 = some d) : a.itemsOf (vs ++ ws) = a.itemsOf vs := by
  induction vs with
  | nil => cases h
  | cons v vs ih =>
    rw [List.cons_append]
    simp only [itemsOf] at h ⊢
    cases hv : a.rowItem v with
    | error d' => rfl
    | ok item =>
      simp only [hv] at h ⊢
      rw [ih h]

/-! ## A scan, row by row -/

/-- One row of a scan: it breaks the contract, counted as a unit, or the scan
hands on its item and goes on with the next row. -/
theorem scanRows_cons (a : RowArtifact) (i : Nat) (q : RowQuery) (j : Nat) (row : Row)
    (rows : List Row) (acc : RowScan) :
    a.scanRows i q j (row :: rows) acc =
      match a.rowItem ⟨i, q, j, row⟩ with
      | .error d =>
        ({ acc with stats := { acc.stats with units := acc.stats.units + 1 } }, some (.contract a.name d))
      | .ok h => a.scanRows i q (j + 1) rows (acc.hand h) := by
  rw [scanRows]
  unfold rowItem
  dsimp only [RowVisit.location]
  cases q.extract row with
  | error p => cases p <;> rfl
  | ok record =>
    dsimp only
    cases a.emission.toEvent a.name (.row i j) record a.hints <;> rfl

/-- The rows of one query: the scan hands on their items, or stops at the first
row that breaks the contract with that break, having handed on the items before
it. -/
theorem scanRows_eq (a : RowArtifact) (i : Nat) (q : RowQuery) (rows : List Row) (j : Nat)
    (acc : RowScan) :
    ((a.itemsOf (RowVisit.ofRows i q rows j)).2 = none →
        a.scanRows i q j rows acc = (acc.handAll (a.itemsOf (RowVisit.ofRows i q rows j)).1, none)) ∧
      (∀ d, (a.itemsOf (RowVisit.ofRows i q rows j)).2 = some d →
        (a.scanRows i q j rows acc).2 = some (.contract a.name d) ∧
          (a.scanRows i q j rows acc).1.collected =
            acc.collected.handAll (a.itemsOf (RowVisit.ofRows i q rows j)).1) := by
  induction rows generalizing j acc with
  | nil => exact ⟨fun _ => rfl, fun d h => by cases h⟩
  | cons row rows ih =>
    rw [scanRows_cons, RowVisit.ofRows_cons, itemsOf]
    cases hv : a.rowItem ⟨i, q, j, row⟩ with
    | error d =>
      refine ⟨fun h => by simp at h, fun d' h => ?_⟩
      dsimp only at h
      cases h
      exact ⟨rfl, rfl⟩
    | ok item =>
      -- the row's item is handed on before the rest of the rows
      dsimp only
      obtain ⟨hrun, hstop⟩ := ih (j + 1) (acc.hand item)
      exact ⟨fun h => by rw [hrun h, RowScan.handAll_cons], hstop⟩

/-- Queries in order, each answered: the scan hands on the items of their rows,
or stops at the first row that breaks the contract with that break, having
handed on the items before it. -/
theorem scanQueries_eq (a : RowArtifact) (catalog : Catalog) (rowsOf : String → List Row)
    (qs : List (RowQuery × Nat)) (acc : RowScan) :
    ((a.itemsOf (RowVisit.ofQueries rowsOf qs)).2 = none →
        a.scanQueries (.ofRows catalog rowsOf) qs acc =
          (acc.handAll (a.itemsOf (RowVisit.ofQueries rowsOf qs)).1, none)) ∧
      (∀ d, (a.itemsOf (RowVisit.ofQueries rowsOf qs)).2 = some d →
        (a.scanQueries (.ofRows catalog rowsOf) qs acc).2 = some (.contract a.name d) ∧
          (a.scanQueries (.ofRows catalog rowsOf) qs acc).1.collected =
            acc.collected.handAll (a.itemsOf (RowVisit.ofQueries rowsOf qs)).1) := by
  induction qs generalizing acc with
  | nil => exact ⟨fun _ => rfl, fun d h => by cases h⟩
  | cons qi qs ih =>
    obtain ⟨q, i⟩ := qi
    obtain ⟨hrun, hstop⟩ := a.scanRows_eq i q (rowsOf q.sql) 0 acc
    rw [RowVisit.ofQueries_cons]
    simp only [scanQueries, RowSource.rows_ofRows]
    cases hq : (a.itemsOf (RowVisit.ofRows i q (rowsOf q.sql) 0)).2 with
    | none =>
      -- the query's rows are all handed on, and the next query goes on from there
      rw [hrun hq, a.itemsOf_append_of_none _ hq]
      dsimp only
      obtain ⟨hrun', hstop'⟩ := ih (acc.handAll (a.itemsOf (RowVisit.ofRows i q (rowsOf q.sql) 0)).1)
      refine ⟨fun h => by rw [hrun' h, RowScan.handAll_append], fun d h => ?_⟩
      obtain ⟨h₁, h₂⟩ := hstop' d h
      refine ⟨h₁, ?_⟩
      rw [h₂, Collected.handAll_append]
      rfl
    | some d =>
      -- a row of this query breaks the contract: the scan stops with it
      obtain ⟨h₁, h₂⟩ := hstop d hq
      rw [a.itemsOf_append_of_some _ hq, hq]
      generalize a.scanRows i q 0 (rowsOf q.sql) acc = stopped at h₁ h₂
      obtain ⟨acc', e⟩ := stopped
      cases h₁
      refine ⟨fun h => ?_, fun d' h => ?_⟩
      · cases h
      · cases h
        exact ⟨rfl, h₂⟩

/-- A scan of a source whose every query answers: it breaks the contract on a
catalog that misses a requirement; otherwise it hands on the items of the rows
it reaches, or stops at the first row that breaks the contract with that break,
having handed on the items before it. -/
theorem scanInto_ofRows (a : RowArtifact) (catalog : Catalog) (rowsOf : String → List Row)
    (sink : Collected) :
    a.scanInto (.ofRows catalog rowsOf) sink =
      match missingRequirement a.required catalog with
      | some d => (.error (.contract a.name d), sink)
      | none =>
        (match (a.itemsOf (a.visits rowsOf)).2 with
          | none => .ok (({} : Stats).tallyAll (a.itemsOf (a.visits rowsOf)).1)
          | some d => .error (.contract a.name d),
          sink.handAll (a.itemsOf (a.visits rowsOf)).1) := by
  unfold scanInto
  rw [RowSource.tables_ofRows]
  dsimp only
  cases missingRequirement a.required catalog with
  | some d => rfl
  | none =>
    obtain ⟨hrun, hstop⟩ := a.scanQueries_eq catalog rowsOf a.queries.zipIdx { collected := sink }
    dsimp only
    cases hr : (a.itemsOf (a.visits rowsOf)).2 with
    | none =>
      rw [hrun hr]
      rfl
    | some d =>
      obtain ⟨h₁, h₂⟩ := hstop d hr
      generalize a.scanQueries _ a.queries.zipIdx { collected := sink } = result at h₁ h₂
      obtain ⟨acc, e⟩ := result
      cases h₁
      exact congrArg _ h₂

/-! ## What each row gives -/

/-- What a scan must hand on for a row that breaks no contract: the event of its
record, when every declared column is there and coerces and the record makes an
event; otherwise a warning of the artifact at the row, describing the row, whose
message names the first declared column that does not coerce or, failing that,
the attribute that stops the event. -/
def HandsOn (a : RowArtifact) (v : RowVisit) : Handed → Prop
  | .event e => v.query.firstProblem v.row = none ∧
      a.emission.toEvent a.name v.location (v.query.finish (v.query.coerced v.row)) a.hints = .ok e
  | .warning w => w.artifact = a.name ∧ w.location = v.location ∧
      w.unit = describeRow v.query.columns v.row ∧
      ((∃ c reason, v.query.firstProblem v.row = some (.coercion c reason) ∧
          w.message = "column `" ++ c ++ "`: " ++ reason) ∨
        (∃ err, v.query.firstProblem v.row = none ∧
          a.emission.toEvent a.name v.location (v.query.finish (v.query.coerced v.row)) a.hints =
            .error err ∧
          w.message = err.message))

/-- A row breaks the contract exactly when the first declared column that stops
it is missing; the break names the query and the column. -/
theorem rowItem_eq_error_iff (a : RowArtifact) (v : RowVisit) (d : String) :
    a.rowItem v = .error d ↔ ∃ c, v.query.firstProblem v.row = some (.missingColumn c) ∧
      d = "query " ++ toString v.queryIndex ++ " returned no column `" ++ c ++ "`" := by
  unfold rowItem
  rw [RowQuery.extract_eq]
  cases v.query.firstProblem v.row with
  | none =>
    dsimp only
    cases a.emission.toEvent a.name v.location (v.query.finish (v.query.coerced v.row)) a.hints <;>
      simp
  | some p =>
    cases p with
    | missingColumn c => simp [eq_comm]
    | coercion c reason => simp

/-- Whatever a scan hands on for a row is what it must hand on. -/
theorem handsOn_of_rowItem (a : RowArtifact) {v : RowVisit} {h : Handed}
    (hitem : a.rowItem v = .ok h) : a.HandsOn v h := by
  unfold rowItem at hitem
  rw [RowQuery.extract_eq] at hitem
  cases hp : v.query.firstProblem v.row with
  | some p =>
    rw [hp] at hitem
    cases p with
    | missingColumn c => cases hitem
    | coercion c reason =>
      cases hitem
      exact ⟨rfl, rfl, rfl, .inl ⟨c, reason, hp, rfl⟩⟩
  | none =>
    rw [hp] at hitem
    dsimp only at hitem
    cases he : a.emission.toEvent a.name v.location (v.query.finish (v.query.coerced v.row)) a.hints with
    | ok e =>
      rw [he] at hitem
      cases hitem
      exact ⟨hp, he⟩
    | error err =>
      rw [he] at hitem
      cases hitem
      exact ⟨rfl, rfl, rfl, .inr ⟨err, hp, he, rfl⟩⟩

/-- Whatever a scan hands on for a row is located at the row. -/
theorem HandsOn.location {a : RowArtifact} {v : RowVisit} {h : Handed} (hh : a.HandsOn v h) :
    h.location = v.location := by
  cases h with
  | event e => exact Emission.location_of_toEvent hh.2
  | warning w => exact hh.2.1

/-- The items of some rows: those of the rows before the first that breaks the
contract, one for each, and the break of that row, if any. -/
theorem itemsOf_split (a : RowArtifact) (vs : List RowVisit) :
    ∃ done rest, vs = done ++ rest ∧
      List.Forall₂ (fun v h => a.rowItem v = .ok h) done (a.itemsOf vs).1 ∧
      ((rest = [] ∧ (a.itemsOf vs).2 = none) ∨
        ∃ v more d, rest = v :: more ∧ a.rowItem v = .error d ∧ (a.itemsOf vs).2 = some d) := by
  induction vs with
  | nil => exact ⟨[], [], rfl, .nil, .inl ⟨rfl, rfl⟩⟩
  | cons v vs ih =>
    cases hv : a.rowItem v with
    | error d =>
      refine ⟨[], v :: vs, rfl, ?_, .inr ⟨v, vs, d, rfl, hv, ?_⟩⟩
      · simp only [itemsOf, hv]
        exact .nil
      · simp only [itemsOf, hv]
    | ok item =>
      obtain ⟨done, rest, hsplit, hitems, hend⟩ := ih
      refine ⟨v :: done, rest, by rw [hsplit, List.cons_append], ?_, ?_⟩
      · simp only [itemsOf, hv]
        exact .cons hv hitems
      · simpa only [itemsOf, hv] using hend

/-- Rows and the items handed on for them stand at the same places. -/
theorem map_location_of_handsOn (a : RowArtifact) {done : List RowVisit} {items : List Handed}
    (h : List.Forall₂ a.HandsOn done items) :
    items.map Handed.location = done.map RowVisit.location := by
  induction h with
  | nil => rfl
  | cons hhead _ ih => rw [List.map_cons, List.map_cons, hhead.location, ih]

end RowArtifact

/-! ## A scan of a database -/

/-- A row scan into an empty sink, of a database whose every query answers. On a
catalog that misses a requirement it breaks the schema contract with that
requirement, whatever the queries would answer, and hands on nothing. Otherwise
it reaches the rows of the queries in order, numbered from 0 within each query.
For each row it hands on one item, at the row's place and of the kind the row
calls for, until a row whose first problem, in the order of the declared
columns, is a missing column: there it breaks the contract, naming the query and
the column, and the sink keeps the items handed on before. Without such a row
it succeeds with the counts of the items. -/
theorem RowArtifact.scan_hands_on_each_row (a : RowArtifact) (catalog : Catalog)
    (rowsOf : String → List Row) :
    (∀ d, missingRequirement a.required catalog = some d →
      ∀ rows : String → Except SourceError (List Row),
        a.scanInto ⟨.ok catalog, rows⟩ {} = (.error (.contract a.name d), {})) ∧
    (missingRequirement a.required catalog = none →
      ∃ done rest items, a.visits rowsOf = done ++ rest ∧ List.Forall₂ a.HandsOn done items ∧
        items.map Handed.location = done.map RowVisit.location ∧
        ((rest = [] ∧ a.scanInto (.ofRows catalog rowsOf) {} =
            (.ok (({} : Stats).tallyAll items), ({} : Collected).handAll items)) ∨
          ∃ v more c, rest = v :: more ∧ v.query.firstProblem v.row = some (.missingColumn c) ∧
            a.scanInto (.ofRows catalog rowsOf) {} =
              (.error (.contract a.name
                ("query " ++ toString v.queryIndex ++ " returned no column `" ++ c ++ "`")),
                ({} : Collected).handAll items))) := by
  refine ⟨?unmet, ?met⟩
  case unmet =>
    intro d hd rows
    simp only [scanInto, hd]
  case met =>
    intro hmet
    obtain ⟨done, rest, hsplit, hitems, hend⟩ := a.itemsOf_split (a.visits rowsOf)
    have hhands : List.Forall₂ a.HandsOn done (a.itemsOf (a.visits rowsOf)).1 :=
      hitems.imp fun _ _ => a.handsOn_of_rowItem
    refine ⟨done, rest, _, hsplit, hhands, a.map_location_of_handsOn hhands, ?_⟩
    rw [a.scanInto_ofRows, hmet]
    rcases hend with ⟨hrest, hnone⟩ | ⟨v, more, d, hrest, hv, hsome⟩
    · -- every row is handed on
      refine .inl ⟨hrest, ?_⟩
      rw [hnone]
    · -- a row breaks the contract: the break names its query and the missing column
      obtain ⟨c, hfirst, rfl⟩ := (a.rowItem_eq_error_iff v d).mp hv
      refine .inr ⟨v, more, c, hrest, hfirst, ?_⟩
      rw [hsome]

end Timeline
