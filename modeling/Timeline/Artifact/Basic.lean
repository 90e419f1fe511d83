import Timeline.Grammar.Extract
import Timeline.Event.Emit
import Timeline.Pattern.Match
import Timeline.Number.Read
/-!
# Artifacts

An artifact is a kind of evidence that the normalizer knows how to read.

* A text artifact reads line-oriented files: a pattern that its first line must
  match, optional preamble lines at the start of the file, the grammar of its
  units, and the emission schema of its events.
* A row artifact reads databases: the tables and columns it requires, the
  queries it runs with the kind of each column it reads, and its emission
  schema.
-/

namespace Timeline

open Time

/-- Header lines that may open a file. A header may carry the year of the
records below it in a group named `year`. -/
structure Preamble where
  pattern : Pattern
  deriving Repr

/-- `none` when a line is no preamble line; else the year it carries, if any. -/
def Preamble.classify (p : Preamble) (line : String) : Option (Option Int) :=
  (p.pattern.groupText? line "year").map fun year => year.bind Number.readInt32?

/-- An artifact read from lines of text. -/
structure TextArtifact where
  name : String
  description : String
  /-- What the first line of a file of this artifact matches. -/
  anchor : Pattern
  preamble : Option Preamble := none
  grammar : Grammar
  emission : Emission
  hints : TimeHints := {}

/-- How a column's value becomes a record field. -/
inductive ColumnKind where
  | int
  | text
  | bool
  /-- Seconds since 1970. -/
  | posixTime
  /-- Milliseconds since 1970. -/
  | javaTime
  /-- Microseconds since 1601; zero means never. -/
  | webkitTime
  /-- Seconds since 2001, possibly fractional. -/
  | cocoaTime
  deriving DecidableEq, Repr

/-- A column a query reads, the record field it fills, and how it is read. -/
structure ColumnSpec where
  column : String
  field : String
  kind : ColumnKind
  deriving DecidableEq, Repr

/-- A query of a row artifact: its SQL, its columns, the fields derived from
them and the derivation, which runs on each record before emission. -/
structure RowQuery where
  sql : String
  columns : List ColumnSpec
  derived : List String := []
  finish : Record → Record := id

/-- A table a row artifact needs, with the columns it needs. -/
structure RequiredTable where
  name : String
  columns : List String
  deriving DecidableEq, Repr

/-- An artifact read from the rows of a database. -/
structure RowArtifact where
  name : String
  description : String
  required : List RequiredTable
  queries : List RowQuery
  emission : Emission
  hints : TimeHints := {}

/-- An artifact of either kind. -/
inductive Artifact where
  | text (a : TextArtifact)
  | rows (a : RowArtifact)

namespace Artifact

/-- The name of an artifact. -/
def name : Artifact → String
  | .text a => a.name
  | .rows a => a.name

/-- The description of an artifact. -/
def description : Artifact → String
  | .text a => a.description
  | .rows a => a.description

/-- The data type of an artifact's events. -/
def dataType : Artifact → String
  | .text a => a.emission.dataType
  | .rows a => a.emission.dataType

/-- `text` or `rows`. -/
def kindName : Artifact → String
  | .text _ => "text"
  | .rows _ => "rows"

end Artifact

end Timeline
