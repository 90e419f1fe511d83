import Timeline.Row.Coerce
import Timeline.Event.Emit
/-!
# Scanning row evidence

A row artifact first checks the catalog against its requirements; a database
that does not meet them breaks the artifact's schema contract and nothing is
read. Then it runs its queries in order and reads every row, numbered from 0
within each query. Each row gives one event, or one warning that describes the
row and names the first column that could not be read or the attribute whose
time does not normalize. A declared column that the result lacks breaks the
contract in the middle of the scan; the sink keeps what it was handed before.
-/

namespace Timeline

/-- Why a row scan stops. -/
inductive RowScanError where
  | source (e : SourceError)
  | contract (artifact detail : String)

/-- The message of a row scan error. -/
def RowScanError.message : RowScanError → String
  | .source e => e.message
  | .contract a d => "`" ++ a ++ "` schema contract violated: " ++ d

/-- Why a row gives no record. -/
inductive RowProblem where
  | missingColumn (column : String)
  | coercion (column reason : String)

/-- Reads one declared column of a row into a record: a null value or a zero
WebKit time gives no field. -/
def RowQuery.readColumn (row : Row) (record : Record) (spec : ColumnSpec) :
    Except RowProblem Record := do
  let some value := row spec.column | throw (.missingColumn spec.column)
  match spec.kind.coerce value with
  | .error reason => throw (.coercion spec.column reason)
  | .ok none => pure record
  | .ok (some v) => pure (record.insert spec.field v)

/-- The record of a row: the declared columns read in order, then the query's
derivation. -/
def RowQuery.extract (q : RowQuery) (row : Row) : Except RowProblem Record := do
  let record ← q.columns.foldlM (readColumn row) NameMap.empty
  pure (q.finish record)

/-- What a row scan has handed on and counted. -/
structure RowScan where
  collected : Collected := {}
  stats : Stats := {}

/-- Reads the rows of one query, from row `index` on: the scan as it stands at
the end, and the error that stopped it, if any. -/
def RowArtifact.scanRows (a : RowArtifact) (queryIndex : Nat) (q : RowQuery) :
    Nat → List Row → RowScan → RowScan × Option RowScanError
  | _, [], acc => (acc, none)
  | index, row :: rows, acc =>
    let location := Location.row queryIndex index
    let acc := { acc with stats := { acc.stats with units := acc.stats.units + 1 } }
    let warned (message : String) : RowScan :=
      { collected := acc.collected.warn ⟨a.name, location, describeRow q.columns row, message⟩
        stats := { acc.stats with warnings := acc.stats.warnings + 1 } }
    match q.extract row with
    | .error (.missingColumn c) =>
      (acc, some (.contract a.name ("query " ++ toString queryIndex ++ " returned no column `" ++ c ++ "`")))
    | .error (.coercion c reason) =>
      a.scanRows queryIndex q (index + 1) rows (warned ("column `" ++ c ++ "`: " ++ reason))
    | .ok record =>
      match a.emission.toEvent a.name location record a.hints with
      | .ok e =>
        a.scanRows queryIndex q (index + 1) rows
          { collected := acc.collected.emit e, stats := { acc.stats with events := acc.stats.events + 1 } }
      | .error e => a.scanRows queryIndex q (index + 1) rows (warned e.message)

/-- Runs queries in order, each with its index, and reads their rows. -/
def RowArtifact.scanQueries (a : RowArtifact) (src : RowSource) :
    List (RowQuery × Nat) → RowScan → RowScan × Option RowScanError
  | [], acc => (acc, none)
  | (q, i) :: qs, acc =>
    match src.rows q.sql with
    | .error e => (acc, some (.source e))
    | .ok rows =>
      match a.scanRows i q 0 rows acc with
      | (acc, none) => a.scanQueries src qs acc
      | stopped => stopped

/-- Scans a row source into a sink: the counts, or the error that stopped the
scan, and what the sink holds at the end. -/
def RowArtifact.scanInto (a : RowArtifact) (src : RowSource) (sink : Collected) :
    Except RowScanError Stats × Collected :=
  match src.tables with
  | .error e => (.error (.source e), sink)
  | .ok catalog =>
    match missingRequirement a.required catalog with
    | some detail => (.error (.contract a.name detail), sink)
    | none =>
      match a.scanQueries src a.queries.zipIdx { collected := sink } with
      | (acc, none) => (.ok acc.stats, acc.collected)
      | (acc, some e) => (.error e, acc.collected)

/-- Scans a row source into an empty sink. -/
def RowArtifact.scan (a : RowArtifact) (src : RowSource) : Except RowScanError RowScan :=
  match a.scanInto src {} with
  | (.ok stats, collected) => .ok { collected, stats }
  | (.error e, _) => .error e

/-- Whether a row artifact claims a source: the catalog meets its requirements. -/
def RowArtifact.detect (a : RowArtifact) (src : RowSource) : Except SourceError Bool := do
  let catalog ← src.tables
  pure (missingRequirement a.required catalog).isNone

end Timeline
