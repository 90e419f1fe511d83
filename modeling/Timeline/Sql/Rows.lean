import Timeline.Sql.Exec
import Timeline.Row.Basic
import Timeline.Text.Utf8
/-!
# Databases as row sources

A database is read by row artifacts through `Database.rowSource`: its catalog
lists the tables (views left out) with their columns, both in name order, and
each query's rows are its result rows.

A row finds a column by its exact result name first, then by a name equal up
to ASCII case; a text cell is read as UTF-8, bytes that are not replaced.
A query the database refuses is a backend error whose message names the query
and, where the database points at a token, the offset of that token; the
error's result code is the cause under it.
-/

namespace Timeline.Sql

/-- A value as a cell of a row. -/
def Value.toScalar : Value → Scalar
  | .null => .null
  | .integer n => .integer n
  | .real x => .real x
  | .text b => .text (Text.decodeLossy b)
  | .blob b => .blob b

/-- The position of a result column: by exact name, else by name up to ASCII case. -/
def columnPosition? (names : List String) (name : String) : Option Nat :=
  match names.findIdx? (· == name) with
  | some i => some i
  | none => names.findIdx? (sameName · name)

/-- A result row as a row of cells. -/
def rowOf (names : List String) (values : List Value) : Row :=
  fun name => (columnPosition? names name).bind fun i => (values[i]?).map Value.toScalar

/-- The catalog of a database. -/
def Database.catalogMap (db : Database) : Catalog :=
  NameMap.ofList db.catalog

/-- The rows of a query, or the backend error that refuses it. -/
def Database.queryRows (db : Database) (sql : String) : Except SourceError (List Row) :=
  match db.query sql with
  | .ok r => .ok (r.rows.map (rowOf r.columns))
  | .error e => .error (.backend (e.describe sql) [e.underlying])

/-- The row source of a database. -/
def Database.rowSource (db : Database) : RowSource where
  tables := .ok db.catalogMap
  rows := db.queryRows

/-- The row source of a file whose header says database but which cannot be
read as one: every read fails with the same error. -/
def unreadableSource (e : SqlError) : RowSource where
  tables := .error (.backend e.message [e.underlying])
  rows := fun _ => .error (.backend e.message [e.underlying])

end Timeline.Sql
