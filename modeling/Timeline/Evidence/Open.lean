import Timeline.Evidence.Files
import Timeline.Sql.Rows
import Timeline.Sql.Image
import Timeline.Line.Reader
import Timeline.Artifact.Basic
/-!
# Opening evidence

A file is read one of two ways. One that begins with the database header is a
database and is offered to row artifacts; every other file is text, read line
by line by text artifacts. Reading the header is the first read of every
file, so a missing file or a directory fails there.

Opening a database checks the header again and then reads the file as a
database: a database written by the engine is its tables, and the bytes of a
database file are read as one (`Sql.readImage`); a file that cannot be read
that way is one every read of which fails.
-/

namespace Timeline

/-- How a file is read: line by line, or as a database. -/
inductive EvidenceKind where
  | text
  | database
  deriving DecidableEq, Repr

/-- The name of a kind of evidence, as messages show it. -/
def EvidenceKind.display : EvidenceKind → String
  | .text => "text"
  | .database => "SQLite"

/-- Whether an artifact reads a kind of evidence. -/
def EvidenceKind.reads : EvidenceKind → Artifact → Bool
  | .text, .text _ => true
  | .database, .rows _ => true
  | _, _ => false

/-- Why a database could not be opened. -/
inductive OpenError where
  /-- The file does not begin with the database header. -/
  | notDatabase (path : String)
  /-- The file could not be read. -/
  | io (e : IoError)
  deriving DecidableEq, Repr

/-- The message of an open error. -/
def OpenError.message : OpenError → String
  | .notDatabase p => "not a SQLite database: " ++ p
  | .io e => "I/O error: " ++ e.message

namespace Files

/-- The kind of a file, from its first bytes. -/
def kind (fs : Files) (path : String) : Except IoError EvidenceKind := do
  pure (if ← fs.startsAsDatabase path then .database else .text)

/-- A reader of the lines of a text file. -/
def lines (fs : Files) (path : String) : Except IoError TextLines := do
  pure (TextLines.ofBytes (← fs.read path))

/-- The rows of a database file. -/
def openDatabase (fs : Files) (path : String) : Except OpenError RowSource := do
  if !(← (fs.startsAsDatabase path).mapError .io) then throw (.notDatabase path)
  match ← (fs.open? path).mapError .io with
  | .database db => pure db.rowSource
  | .bytes b =>
    match Sql.readImage b with
    | .ok db => pure db.rowSource
    | .error e => pure (Sql.unreadableSource e)
  | .directory => pure (Sql.unreadableSource .notADatabase)

end Files

end Timeline
