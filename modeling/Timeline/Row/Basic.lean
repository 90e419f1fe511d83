import Timeline.Line.Basic
import Timeline.Data.NameMap
import Timeline.Artifact.Basic
/-!
# Row sources

A database answers two questions: its catalog (each table with its columns) and
the rows of a query. A row is read by column name and gives a scalar, or nothing
when the result has no such column. Scalars are those of SQL storage: null,
integers, reals, texts and blobs.

A row artifact requires tables and columns; `missingRequirement` names the first
table it requires that the catalog lacks, or the first column it requires that
the first such table lacks.
-/

namespace Timeline

/-- A value of a database cell. -/
inductive Scalar where
  | null
  | integer (n : Int)
  | real (x : Float)
  | text (s : String)
  | blob (bytes : List UInt8)

/-- The name of a scalar's storage class. -/
def Scalar.storageClass : Scalar → String
  | .null => "null"
  | .integer _ => "integer"
  | .real _ => "real"
  | .text _ => "text"
  | .blob _ => "blob"

/-- The tables of a database with their columns, both sorted by name. -/
abbrev Catalog := NameMap (List String)

/-- A row of a result: its value for a column name, if it has that column. -/
abbrev Row := String → Option Scalar

/-- What a row artifact reads from: the catalog and the rows of each query. -/
structure RowSource where
  tables : Except SourceError Catalog
  rows : String → Except SourceError (List Row)

/-- The first requirement that a catalog does not meet, described. -/
def missingRequirement (required : List RequiredTable) (catalog : Catalog) : Option String :=
  match required with
  | [] => none
  | t :: ts =>
    match catalog.get? t.name with
    | none => some ("table `" ++ t.name ++ "` is missing")
    | some columns =>
      match t.columns.find? (fun c => !columns.contains c) with
      | some c => some ("table `" ++ t.name ++ "` has no column `" ++ c ++ "`")
      | none => missingRequirement ts catalog

end Timeline
