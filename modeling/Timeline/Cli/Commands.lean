import Timeline.Cli.Failure
import Timeline.Evidence.Open
import Timeline.Artifact.Registry
import Timeline.Scan.Text
import Timeline.Scan.Detect
import Timeline.Row.Scan
import Timeline.Json.Event
import Timeline.Text.Columns
/-!
# The commands

The three things the program does with a registry of artifacts.

* `parserListing` lists the artifacts in registry order, one line each under a
  heading, in fixed-width columns.
* `detectReport` says, for each file, which artifacts claim it. The artifacts
  offered a file are those that read its kind; the text artifacts share one
  reader of the file, and detection only looks ahead, so each of them sees the
  file from its first line. A file that cannot be read is reported on its own
  line and does not stop the others.
* `scanFiles` scans each file with the first artifact that claims it, or with
  the one the caller names. Events go out as JSON lines that start with the
  file's path; each file gets one line of diagnostics. A text file above the
  size limit is skipped without being read, and a named artifact that does not
  read the file's kind fails that file only. The count of failed files is part
  of the result; a named artifact that the registry does not hold fails the
  whole command before any file is read.

Every failure is reported with what the command was doing on top: reading or
opening the file, inspecting a database, or scanning with an artifact.
-/

namespace Timeline

/-! ## Listing -/

/-- One line of the listing. -/
def listingLine (name kind dataType description : String) : String :=
  Text.leftAligned 25 name ++ " " ++ Text.leftAligned 5 kind ++ " " ++ Text.leftAligned 25 dataType ++ " " ++
    description ++ "\n"

/-- The listing of a registry's artifacts. -/
def parserListing (r : Registry) : String :=
  if r.artifacts.isEmpty then "No parsers enabled.\n"
  else
    listingLine "NAME" "KIND" "DATA TYPE" "DESCRIPTION" ++
      String.join (r.artifacts.map fun a => listingLine a.name a.kindName a.dataType a.description)

/-! ## Detection -/

/-- An operating-system error as a failure. -/
def ioFailure (e : IoError) : Failure :=
  ⟨e.message, []⟩

/-- A failure to open a database: a read error keeps the system's error under it. -/
def openFailure : OpenError → Failure
  | .io e => ⟨(OpenError.io e).message, [e.message]⟩
  | e => ⟨e.message, []⟩

/-- A row scan error as a failure. -/
def rowScanFailure : RowScanError → Failure
  | .source e => Failure.ofSource e
  | e => ⟨e.message, []⟩

/-- The kind of a file, or why its first bytes could not be read. -/
def evidenceKind (fs : Files) (path : String) : Except Failure EvidenceKind :=
  (fs.kind path).mapError fun e => (ioFailure e).within ("failed to read " ++ path)

/-- A reader of the lines of a text file, or why it could not be opened. -/
def openText (fs : Files) (path : String) : Except Failure TextLines :=
  (fs.lines path).mapError fun e => (ioFailure e).within ("failed to open " ++ path)

/-- The rows of a database file, or why it could not be opened. -/
def openRows (fs : Files) (path : String) : Except Failure RowSource :=
  (fs.openDatabase path).mapError fun e => (openFailure e).within ("failed to open " ++ path)

/-- Every artifact of a registry that claims a file, in registry order. -/
def claimants (r : Registry) (fs : Files) (path : String) : Except Failure (List Artifact) := do
  match ← evidenceKind fs path with
  | .text =>
    let lines ← openText fs path
    -- every text artifact reads through the one reader, as the one before left it
    let detections : LineReading TextLines (List Artifact) :=
      r.textArtifacts.filterMapM fun a => do
        pure (if ← a.detectWith TextLines.access then some (Artifact.text a) else none)
    (detections.exec lines).1.mapError fun e => (Failure.ofSource e).within ("failed to read " ++ path)
  | .database =>
    let source ← openRows fs path
    r.rowArtifacts.filterMapM fun a => do
      let claimed ← (a.detect source).mapError fun e =>
        (Failure.ofSource e).within ("failed to inspect " ++ path)
      pure (if claimed then some (Artifact.rows a) else none)

/-- The line that reports what claims a file. -/
def detectLine (r : Registry) (fs : Files) (path : String) : String :=
  match claimants r fs path with
  | .ok [] => path ++ ": unclaimed\n"
  | .ok claimed => path ++ ": " ++ ", ".intercalate (claimed.map (·.name)) ++ "\n"
  | .error f => path ++ ": error: " ++ f.inline ++ "\n"

/-- What claims each file, one line per file. -/
def detectReport (r : Registry) (fs : Files) (paths : List String) : String :=
  String.join (paths.map (detectLine r fs))

/-! ## Scanning -/

/-- What applies to every file of one scan. -/
structure ScanOptions where
  /-- Scan with this artifact instead of the first that claims the file. -/
  parser : Option String := none
  /-- The year of records that carry none. -/
  year : Int
  /-- Text files longer than this many bytes are skipped. -/
  maxTextFileSize : Nat

/-- What became of one file. -/
inductive FileOutcome where
  | scanned (artifact : String) (collected : Collected) (stats : Stats)
  | unclaimed
  | tooLarge (size : Nat)

/-- Scans one file. -/
def scanFile (r : Registry) (fs : Files) (path : String) (forced : Option Artifact)
    (opts : ScanOptions) : Except Failure FileOutcome := do
  let kind ← evidenceKind fs path
  if kind == .text then
    let size ← (fs.size path).mapError fun e => (ioFailure e).within ("failed to stat " ++ path)
    if size > opts.maxTextFileSize then return .tooLarge size
  let artifact ← match forced with
    | some a =>
      if kind.reads a then pure a
      else throw ⟨"parser `" ++ a.name ++ "` does not read " ++ kind.display ++ " files", []⟩
    | none =>
      match ← claimants r fs path with
      | a :: _ => pure a
      | [] => return .unclaimed
  let scanning := artifact.name ++ " could not scan " ++ path
  match artifact with
  | .text a =>
    let lines ← openText fs path
    let scan ← (a.scan (some opts.year) lines.view).mapError fun e => (Failure.ofSource e).within scanning
    pure (.scanned a.name scan.collected scan.stats)
  | .rows a =>
    let source ← openRows fs path
    let scan ← (a.scan source).mapError fun e => (rowScanFailure e).within scanning
    pure (.scanned a.name scan.collected scan.stats)

/-- The JSON line of an event found in a file. -/
def eventLine (path : String) (e : Event) : String :=
  (Json.obj (("path", .str path) :: e.members)).render ++ "\n"

/-- What a scan of several files wrote and how many files failed. -/
structure ScanResult where
  failed : Nat := 0
  /-- The events, as JSON lines. -/
  out : String := ""
  /-- One line per file. -/
  diagnostics : String := ""
  deriving DecidableEq, Repr

/-- Adds the outcome of one file to a scan's result. -/
def ScanResult.add (acc : ScanResult) (limit : Nat) (path : String) :
    Except Failure FileOutcome → ScanResult
  | .ok (.scanned artifact collected stats) =>
    { acc with
      out := acc.out ++ String.join (collected.events.toList.map (eventLine path))
      diagnostics := acc.diagnostics ++ path ++ ": " ++ artifact ++ ": " ++ toString stats.units ++
        " units, " ++ toString stats.events ++ " events, " ++ toString stats.warnings ++ " warnings\n" }
  | .ok .unclaimed => { acc with diagnostics := acc.diagnostics ++ path ++ ": no parser claims this file\n" }
  | .ok (.tooLarge size) =>
    { acc with diagnostics := acc.diagnostics ++ path ++ ": skipped, " ++ toString size ++
        " bytes exceeds the " ++ toString limit ++ " byte limit\n" }
  | .error f =>
    { acc with failed := acc.failed + 1, diagnostics := acc.diagnostics ++ path ++ ": failed: " ++ f.inline ++ "\n" }

/-- Scans files in order. -/
def scanFiles (r : Registry) (fs : Files) (paths : List String) (opts : ScanOptions) :
    Except Failure ScanResult := do
  let forced ← match opts.parser with
    | none => pure none
    | some name =>
      match r.get? name with
      | some a => pure (some a)
      | none => throw ⟨"unknown or disabled parser `" ++ name ++ "`", []⟩
  pure (paths.foldl (fun acc path => acc.add opts.maxTextFileSize path (scanFile r fs path forced opts)) {})

end Timeline
