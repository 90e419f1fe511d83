import Timeline.Sql.Syntax
import Timeline.Sql.Error
/-!
# Databases

A database is a list of tables and views. A table has columns, keys and rows;
each row has an integer row id, and rows are kept in row-id order, the order in
which a table is read.

A column declared `INTEGER PRIMARY KEY` names the row id: its value is the row
id. Other primary keys and `UNIQUE` columns are keys whose values no two rows
share. An `AUTOINCREMENT` key never hands out a row id it handed out before;
the greatest one handed out per table is kept in the table `sqlite_sequence`.

Names of tables, views and columns match without regard to ASCII case.
-/

namespace Timeline.Sql

/-- Whether two names match: equal up to ASCII case. -/
def sameName (a b : String) : Bool :=
  a.length == b.length && (a.toList.zip b.toList).all fun (x, y) => x.toLower == y.toLower

/-- A column of a table. -/
structure Column where
  name : String
  declaredType : Option String
  affinity : Affinity
  notNull : Bool
  default : Option Expr
  /-- How its texts compare and sort. -/
  collation : Collation := .binary

/-- A table and its rows, by row id. -/
structure Table where
  name : String
  columns : List Column
  /-- The position of the column that is the row id, if one is. -/
  rowidColumn : Option Nat
  autoincrement : Bool
  /-- Keys whose values no two rows share, as lists of column positions. -/
  uniqueKeys : List (List Nat)
  /-- Rows in ascending row-id order. -/
  rows : List (Int × List Value)
  /-- Whether the table has no row ids and keeps its rows in primary-key order. -/
  withoutRowid : Bool := false
  /-- The primary key's columns, by position, when it is not the row id. -/
  primaryKey : List Nat := []
  checks : List CheckDef := []
  /-- The schema it belongs to: `main`, `temp` or an attached one. -/
  schema : String := "main"
  /-- Its text in the schema. -/
  sql : String := ""
  /-- Where in its text a column added later is written. -/
  columnsEnd : Nat := 0
  /-- When it was made: schema objects are listed in this order. -/
  stamp : Nat := 0
  /-- The page its rows start at in the database file. -/
  rootpage : Nat := 0

/-- A view: a named query. -/
structure View where
  name : String
  query : Select
  /-- The names of its columns, if they are given. -/
  columns : Option (List String) := none
  schema : String := "main"
  sql : String := ""
  stamp : Nat := 0

/-- An index of a table: the columns it orders rows by. -/
structure Index where
  name : String
  table : String
  columns : List String
  unique : Bool
  schema : String := "main"
  /-- Its text in the schema, none for an index a table's constraint made. -/
  sql : Option String := none
  stamp : Nat := 0
  rootpage : Nat := 0

/-- A trigger: statements run for each row an event changes on a table. -/
structure Trigger where
  name : String
  table : String
  timing : TriggerTiming
  event : TriggerEvent
  condition : Option Expr
  body : List Statement
  schema : String := "main"
  sql : String := ""
  stamp : Nat := 0

/-- A database. -/
structure Database where
  tables : List Table := []
  views : List View := []
  indexes : List Index := []
  triggers : List Trigger := []
  /-- The schemas attached under names, in the order they were attached. -/
  attached : List String := []
  /-- The stamp the next schema object takes. -/
  nextStamp : Nat := 1
  /-- Whether any statement has written to it; a database never written to is an empty file. -/
  written : Bool := false

/-- The empty database. -/
def Database.empty : Database := {}

/-- The name of the table of handed-out row ids. -/
def sequenceTableName : String := "sqlite_sequence"

namespace Database

/-- The schemas in the order an unqualified name is looked up in. -/
def searchOrder (db : Database) : List String :=
  ["temp", "main"] ++ db.attached

/-- The schema a qualifier names, if it names one: `main`, `temp` or an
attached one. -/
def schemaNamed? (db : Database) (q : String) : Option String :=
  (db.searchOrder.find? (sameName · q))

/-- The table of a name in a schema. -/
def tableIn? (db : Database) (schema : String) (name : String) : Option Table :=
  db.tables.find? fun t => t.schema == schema && sameName t.name name

/-- The table of a name, the schemas searched in order. -/
def table? (db : Database) (name : String) : Option Table :=
  db.searchOrder.findSome? fun s => db.tableIn? s name

/-- The table of a name, in the schema the qualifier names or else searched for. -/
def tableAt? (db : Database) (schema : Option String) (name : String) : Option Table :=
  match schema with
  | some q => (db.schemaNamed? q).bind fun s => db.tableIn? s name
  | none => db.table? name

/-- The view of a name in a schema. -/
def viewIn? (db : Database) (schema : String) (name : String) : Option View :=
  db.views.find? fun v => v.schema == schema && sameName v.name name

/-- The view of a name, the schemas searched in order. -/
def view? (db : Database) (name : String) : Option View :=
  db.searchOrder.findSome? fun s => db.viewIn? s name

/-- The view of a name, in the schema the qualifier names or else searched for. -/
def viewAt? (db : Database) (schema : Option String) (name : String) : Option View :=
  match schema with
  | some q => (db.schemaNamed? q).bind fun s => db.viewIn? s name
  | none => db.view? name

/-- Replaces the table of the same name and schema. -/
def putTable (db : Database) (t : Table) : Database :=
  { db with tables := db.tables.map fun u => if u.schema == t.schema && sameName u.name t.name then t else u }

/-- The tables of the main schema in name order, each with the column names of
the table its name finds, in name order; views are left out. -/
def catalog (db : Database) : List (String × List String) :=
  let byName (a b : String) : Bool := compare a b != .gt
  let tables := (db.tables.filter (·.schema == "main")).mergeSort fun a b => byName a.name b.name
  tables.map fun t =>
    let shown := (db.table? t.name).getD t
    (t.name, (shown.columns.map (·.name)).mergeSort byName)

/-- The entries of a schema's table of objects, in the order they were made:
kind, name, table, root page and text. -/
def schemaEntries (db : Database) (schema : String) : List (List Value) :=
  let tables := (db.tables.filter (·.schema == schema)).map fun t =>
    (t.stamp, [Value.ofString "table", .ofString t.name, .ofString t.name, .integer t.rootpage,
      .ofString t.sql])
  let indexes := (db.indexes.filter (·.schema == schema)).map fun i =>
    (i.stamp, [Value.ofString "index", .ofString i.name, .ofString i.table, .integer i.rootpage,
      match i.sql with
      | some q => .ofString q
      | none => .null])
  let views := (db.views.filter (·.schema == schema)).map fun v =>
    (v.stamp, [Value.ofString "view", .ofString v.name, .ofString v.name, .integer 0, .ofString v.sql])
  let triggers := (db.triggers.filter (·.schema == schema)).map fun t =>
    (t.stamp, [Value.ofString "trigger", .ofString t.name, .ofString t.table, .integer 0, .ofString t.sql])
  ((tables ++ indexes ++ views ++ triggers).mergeSort fun a b => a.1 ≤ b.1).map (·.2)

/-- The first page not used by a table or index of a schema, from page 2 on:
page 1 holds the schema's table of objects. -/
def freePage (db : Database) (schema : String) : Nat :=
  let used := (db.tables.filter (·.schema == schema)).map (·.rootpage) ++
    (db.indexes.filter (·.schema == schema)).map (·.rootpage)
  ((List.range (used.length + 1)).map (· + 2)).find? (!used.contains ·) |>.getD (used.length + 2)

end Database

/-- The position of a column of a table, by name. -/
def Table.columnIndex? (t : Table) (name : String) : Option Nat :=
  t.columns.findIdx? (sameName ·.name name)

/-- The greatest row id of a table, if it has rows. -/
def Table.maxRowid? (t : Table) : Option Int :=
  t.rows.foldl (fun acc (id, _) => some (match acc with | some m => max m id | none => id)) none

/-- Inserts a row, keeping row-id order. -/
def insertByRowid (id : Int) (values : List Value) : List (Int × List Value) → List (Int × List Value)
  | [] => [(id, values)]
  | (j, vs) :: rest =>
    if id < j then (id, values) :: (j, vs) :: rest else (j, vs) :: insertByRowid id values rest

end Timeline.Sql
