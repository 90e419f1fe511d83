import Timeline.Sql.Value
/-!
# Statements of the query language

The parsed form of the statements the database runs: table, view, index and
trigger definitions and their changes, inserts, updates and deletes, and
queries.

A query names its sources in `FROM`, keeps the rows that pass `WHERE`, gathers
them into groups by `GROUP BY` when it computes aggregates, keeps the groups
that pass `HAVING`, computes its result columns, and sorts and cuts them by
`ORDER BY` and `LIMIT`. A result
column without an alias is named after the column it reads, or else after its
own text as written, so the parser keeps that text.

Column references keep the byte offset of their first token, for the error
that reports an unknown column.
-/

namespace Timeline.Sql

/-- Operators of one operand. -/
inductive UnaryOp where
  | negate
  | plus
  | not
  | bitNot
  deriving DecidableEq, Repr

/-- Operators of two operands. -/
inductive BinaryOp where
  | concat
  | mul
  | div
  | rem
  | add
  | sub
  | shiftLeft
  | shiftRight
  | bitAnd
  | bitOr
  | lt
  | le
  | gt
  | ge
  | eq
  | ne
  | is
  | isNot
  | and
  | or
  deriving DecidableEq, Repr

/-- How the rows of a window frame are counted from the current row. -/
inductive FrameUnit where
  | rows
  | range
  | groups
  deriving DecidableEq, Repr

/-- An end of a window frame. -/
inductive FrameBound where
  | unboundedPreceding
  | preceding (n : Nat)
  | currentRow
  | following (n : Nat)
  | unboundedFollowing
  deriving DecidableEq, Repr

/-- The rows a window frame leaves out around the current row: none, the
current row, its peers and itself, or its peers only. -/
inductive FrameExclude where
  | noOthers
  | currentRow
  | group
  | ties
  deriving DecidableEq, Repr

/-- The frame of a window: the rows around the current one that a function
over the window sees. By default, the rows from the first of the partition to
the last peer of the current row. A window may build on a named window of the
query's `WINDOW` clause, or be that named window itself. -/
structure WindowFrame where
  unit : FrameUnit := .range
  start : FrameBound := .unboundedPreceding
  finish : FrameBound := .currentRow
  exclude : FrameExclude := .noOthers
  /-- Whether the frame is written out rather than the default. -/
  given : Bool := false
  /-- The named window this one builds on, if any. -/
  base : Option String := none
  /-- Whether the window is the named window itself (`OVER name`). -/
  named : Bool := false
  deriving DecidableEq, Repr

/-- How a source is joined to those before it. -/
inductive JoinKind where
  | inner
  | left
  | right
  | full
  deriving DecidableEq, Repr

/-- The operator that joins the queries of a compound query. -/
inductive CompoundOp where
  | unionAll
  | union
  | intersect
  | except
  deriving DecidableEq, Repr

/-- The operator as it is written. -/
def CompoundOp.name : CompoundOp → String
  | .unionAll => "UNION ALL"
  | .union => "UNION"
  | .intersect => "INTERSECT"
  | .except => "EXCEPT"

mutual

/-- An expression. -/
inductive Expr where
  | literal (v : Value)
  /-- A column, maybe qualified by its source, and the offset where it is written. -/
  | column (source : Option String) (name : String) (offset : Nat)
  | unary (op : UnaryOp) (e : Expr)
  | binary (op : BinaryOp) (a b : Expr)
  | isNull (e : Expr) (negated : Bool)
  | cast (e : Expr) (typeName : String)
  /-- A function call; `star` for `f(*)`, `distinct` for `f(DISTINCT …)`; the offset of the name. -/
  | call (name : String) (args : List Expr) (star distinct : Bool) (offset : Nat)
  | between (e lo hi : Expr) (negated : Bool)
  | inList (e : Expr) (items : List Expr) (negated : Bool)
  | caseOf (operand : Option Expr) (branches : List (Expr × Expr)) (otherwise : Option Expr)
  /-- An expression compared and sorted under a named collation. -/
  | collate (e : Expr) (name : String)
  /-- A function over a window: the rows of the same partition, in the window's
  order, and within its frame. -/
  | window (name : String) (args : List Expr) (star : Bool) (partition : List Expr)
      (order : List (Expr × Bool)) (frame : WindowFrame) (offset : Nat)
  /-- A query in parentheses: the first column of its first row, null when it
  has no rows. -/
  | subquery (q : Select)
  /-- `EXISTS`: whether a query has rows. -/
  | exists (q : Select)
  /-- `IN` with a query: whether the value is among the first column of its
  rows. The right side is the query, or once it has run, its values. -/
  | inQuery (e : Expr) (rows : Expr) (negated : Bool)
  /-- Values a query gave, with the affinity and the collation they compare
  under: those of the query's column, or those of a column of an enclosing
  query that a query within it reads. As a value, the first of them, or null. -/
  | found (values : List Value) (affinity : Option Affinity) (collation : Option Collation)

/-- A column of a query's result. -/
inductive ResultColumn where
  /-- Every column of every source. -/
  | all
  /-- Every column of one source. -/
  | allOf (source : String) (offset : Nat)
  /-- A computed column, its alias, and its text as written. -/
  | expr (e : Expr) (label : Option String) (text : String)

/-- A source of a query: a table or view, or a query in parentheses, under an
alias maybe. -/
structure SourceRef where
  name : String
  label : Option String
  join : JoinKind
  constraint : Option Expr
  /-- The columns `USING` names, or that `NATURAL` finds in common. -/
  usingColumns : List String := []
  natural : Bool := false
  /-- The schema the name is qualified by, if it is. -/
  schema : Option String := none
  /-- The query whose rows the source reads, when it is one. -/
  query : Option Select := none

/-- A term of `ORDER BY` or `GROUP BY`: its expression, whether it sorts
descending, and the offset of its first number, which errors about a term that
names a result column by number point at. -/
structure OrderTerm where
  expr : Expr
  descending : Bool := false
  numberOffset : Nat := 0
  /-- Whether nulls sort before other values, when `NULLS FIRST` or
  `NULLS LAST` says; by default they sort as the smallest values. -/
  nullsFirst : Option Bool := none

/-- A query. -/
structure Select where
  distinct : Bool
  columns : List ResultColumn
  sources : List SourceRef
  filter : Option Expr
  /-- The terms that group rows, for aggregate functions. -/
  groupBy : List OrderTerm := []
  /-- The condition a group must meet. -/
  having : Option Expr := none
  /-- Sort terms. -/
  orderBy : List OrderTerm
  limit : Option Expr
  offset : Option Expr
  /-- Further queries joined to this one, each by its operator; the sort terms,
  limit and offset then apply to the rows of the whole compound. -/
  compound : List (CompoundOp × Select) := []
  /-- The common table expressions of `WITH`: each a name, maybe its column
  names, and its query. -/
  ctes : List (String × Option (List String) × Select) := []
  /-- The named windows of `WINDOW`: each a name, its partition, order and frame. -/
  windows : List (String × List Expr × List (Expr × Bool) × WindowFrame) := []

end

mutual

/-- The expression as the condition of a join keeps it: the operands reached
through operators and function arguments lose their offsets, while the items
of `IN`, the bounds of `BETWEEN` and the branches of `CASE` keep theirs. -/
def Expr.forgetOffsets : Expr → Expr
  | .literal v => .literal v
  | .column q n _ => .column q n 0
  | .unary op e => .unary op e.forgetOffsets
  | .binary op a b => .binary op a.forgetOffsets b.forgetOffsets
  | .isNull e negated => .isNull e.forgetOffsets negated
  | .cast e t => .cast e.forgetOffsets t
  | .call n args star distinct _ => .call n (Expr.forgetOffsetsList args) star distinct 0
  | .between e lo hi negated => .between e.forgetOffsets lo hi negated
  | .inList e items negated => .inList e.forgetOffsets items negated
  | .caseOf operand branches otherwise => .caseOf (Expr.forgetOffsetsOption operand) branches otherwise
  | .collate e n => .collate e.forgetOffsets n
  | .window n args star partition order frame _ => .window n args star partition order frame 0
  | .subquery q => .subquery q
  | .exists q => .exists q
  | .inQuery e rows negated => .inQuery e.forgetOffsets rows negated
  | .found vs aff coll => .found vs aff coll

/-- `Expr.forgetOffsets` on each expression of a list. -/
def Expr.forgetOffsetsList : List Expr → List Expr
  | [] => []
  | e :: es => e.forgetOffsets :: Expr.forgetOffsetsList es

/-- `Expr.forgetOffsets` on an optional expression. -/
def Expr.forgetOffsetsOption : Option Expr → Option Expr
  | none => none
  | some e => some e.forgetOffsets

end

/-- A `CHECK` constraint: its name if `CONSTRAINT` gives one, its condition,
and the condition's text as written, which names the constraint otherwise. -/
structure CheckDef where
  name : Option String
  condition : Expr
  text : String

/-- A column of a table definition. -/
structure ColumnDef where
  name : String
  declaredType : Option String
  notNull : Bool := false
  primaryKey : Bool := false
  descending : Bool := false
  autoincrement : Bool := false
  unique : Bool := false
  default : Option Expr := none
  collation : Option String := none
  checks : List CheckDef := []

/-- A table definition. -/
structure TableDef where
  name : String
  /-- The name as written, with its offset, for the error of a name in use. -/
  nameText : String
  nameOffset : Nat
  ifNotExists : Bool
  columns : List ColumnDef
  /-- A table-wide primary key, by column names. -/
  primaryKey : Option (List String)
  /-- Table-wide unique keys, by column names. -/
  uniques : List (List String)
  /-- Table-wide `CHECK` constraints. -/
  checks : List CheckDef := []
  /-- The schema the name is qualified by, if it is. -/
  schema : Option String := none
  /-- Whether it is `TEMP`. -/
  temp : Bool := false
  /-- Whether it is `WITHOUT ROWID`: its rows are kept in primary-key order. -/
  withoutRowid : Bool := false
  /-- The text the schema keeps: `CREATE TABLE` and the statement from the name on. -/
  sql : String := ""
  /-- Where in that text a column added later is written: the byte offset of
  the comma before the table-wide constraints, or of the closing parenthesis. -/
  columnsEnd : Nat := 0

/-- A view definition. -/
structure ViewDef where
  name : String
  nameText : String
  nameOffset : Nat
  ifNotExists : Bool
  /-- The names of its columns, if they are given. -/
  columns : Option (List String) := none
  query : Select
  schema : Option String := none
  temp : Bool := false
  sql : String := ""

/-- An index definition. -/
structure IndexDef where
  name : String
  table : String
  columns : List String
  unique : Bool
  ifNotExists : Bool
  schema : Option String := none
  sql : String := ""

/-- What a statement does with a row that breaks a `UNIQUE`, `PRIMARY KEY`
or `NOT NULL` constraint: fail (`ABORT`, `FAIL`, `ROLLBACK`), leave the row out
(`IGNORE`), or make room for it (`REPLACE`). -/
inductive ConflictAction where
  | abort
  | ignore
  | replace
  deriving DecidableEq, Repr

/-- The rows an insert adds. -/
inductive InsertSource where
  | values (rows : List (List Expr))
  | query (q : Select)
  | defaults

/-- When a trigger runs: before, after or instead of its event. -/
inductive TriggerTiming where
  | before
  | after
  | insteadOf
  deriving DecidableEq, Repr

/-- What a trigger runs on: inserts, deletes, or updates (of some columns,
when they are named). -/
inductive TriggerEvent where
  | insert
  | delete
  | update (columns : List String)
  deriving DecidableEq, Repr

/-- What `ALTER TABLE` changes. -/
inductive AlterAction where
  | renameTable (newName : String)
  | renameColumn (old new : String)
  /-- A column added, with the text of its definition. -/
  | addColumn (column : ColumnDef) (text : String)
  | dropColumn (name : String)

/-- The kinds of schema objects. -/
inductive ObjectKind where
  | table
  | view
  | index
  | trigger
  deriving DecidableEq, Repr

/-- A statement. -/
inductive Statement where
  | createTable (t : TableDef)
  | createView (v : ViewDef)
  | createIndex (i : IndexDef)
  /-- A trigger: its name, schema and whether it is `TEMP` or `IF NOT EXISTS`,
  when it runs on which table, its condition, its statements and its text. -/
  | createTrigger (name : String) (schema : Option String) (temp ifNotExists : Bool)
      (timing : TriggerTiming) (event : TriggerEvent) (table : String) (condition : Option Expr)
      (body : List Statement) (sql : String)
  | insert (table : String) (schema : Option String) (columns : Option (List String))
      (source : InsertSource) (conflict : ConflictAction) (returning : List ResultColumn)
  | update (table : String) (schema : Option String) (assignments : List (String × Expr))
      (filter : Option Expr) (conflict : ConflictAction) (returning : List ResultColumn)
  | delete (table : String) (schema : Option String) (filter : Option Expr) (returning : List ResultColumn)
  | drop (kind : ObjectKind) (name : String) (schema : Option String) (ifExists : Bool)
  | alterTable (table : String) (schema : Option String) (action : AlterAction)
  /-- Another database opened under a schema name. -/
  | attach (file : Expr) (schema : String)
  | detach (schema : String)
  /-- Gathering statistics on the tables and indexes. -/
  | analyze
  | query (q : Select)
  /-- Statements that change nothing here: transactions and the like. -/
  | nothing

end Timeline.Sql
