import Timeline.Text.Quoted
import Timeline.Text.Trim
import Timeline.Text.Unicode.DecimalDigit
import Timeline.Time.Normalize
import Timeline.Number.Plain
import Timeline.Number.Read
import Timeline.Json.Basic
import Timeline.Json.Time
import Timeline.Pattern.Match
import Timeline.Grammar.Extract
import Timeline.Event.Emit
import Timeline.Text.Utf8
import Timeline.Line.Split
import Timeline.Artifact.Registry
import Timeline.Artifact.Shell
import Timeline.Artifact.Logs
import Timeline.Scan.Detect
import Timeline.Row.Scan
import Timeline.Text.Markup
import Timeline.Artifact.Builtin
import Timeline.Json.Event
import Timeline.Json.Parse
import Timeline.Sql.Value
import Timeline.Sql.Token
import Timeline.Sql.Parse
import Timeline.Sql.Database
import Timeline.Sql.Eval
import Timeline.Sql.Aggregate
import Timeline.Sql.Query
import Timeline.Sql.Window
import Timeline.Sql.Access
import Timeline.Sql.Bind
import Timeline.Sql.NamedWindow
import Timeline.Sql.Schema
import Timeline.Sql.Change
import Timeline.Sql.Exec
import Timeline.Sql.Rows
import Timeline.Evidence.Files
import Timeline.Evidence.Open
import Timeline.Text.Columns
import Timeline.Cli.Failure
import Timeline.Cli.Commands
import Timeline.Cli.Similar
import Timeline.Cli.Arguments
import Timeline.Settings.Value
import Timeline.Settings.Toml
import Timeline.Settings.Config
import Timeline.Cli.Program
import Timeline.Main
import Timeline.Proofs.Selection
import Timeline.Proofs.LineUnits
import Timeline.Proofs.TextScan
import Timeline.Proofs.Extraction
import Timeline.Proofs.Interrupted
import Timeline.Line.Reader
import Timeline.Proofs.BufferedLines
import Timeline.Proofs.Detection
import Timeline.Proofs.FirstUnit
import Timeline.Proofs.RowScan
import Timeline.Proofs.CivilDays
import Timeline.Proofs.InstantRange
import Timeline.Proofs.TimeTuples
import Timeline.Proofs.IsoText
import Timeline.Proofs.DecimalText
import Timeline.Proofs.EncodedText
import Timeline.Proofs.FieldReading
import Timeline.Proofs.JoinedLines
import Timeline.Proofs.VsftpdLog
import Timeline.Proofs.PatternMatch
import Timeline.Proofs.RecordLines
import Timeline.Proofs.ZshHistory
import Timeline.Proofs.EpochTimes
import Timeline.Proofs.CalendarTuples
import Timeline.Proofs.FishHistory
import Timeline.Proofs.GoogleLog
import Timeline.Proofs.ScanCommand
import Timeline.Proofs.MatcherSpans
import Timeline.Proofs.UnitCover
import Timeline.Proofs.DetectionReach
import Timeline.Proofs.Chronology
import Timeline.Proofs.EventBuilding
import Timeline.Proofs.SchemaGate
import Timeline.Proofs.RowTimes
import Timeline.Proofs.EntityDecoding
