import Timeline.Sql.Syntax
/-!
# Binding the rows of a trigger

The statements of a trigger read the row its event changes as `NEW.column`
(the row as inserted or updated) and `OLD.column` (the row as deleted or before
an update). Before the statements run for a row, each such reference is
replaced by the value it reads (`Statement.bindRow`); the statements are then
ordinary statements.

`Expr.mapColumns` rewrites every column reference of an expression, and the
`Select` and `Statement` forms do so through every expression a query or
statement holds, queries nested within queries and expressions included.
-/

namespace Timeline.Sql

mutual

/-- The expression with every column reference `f` rewrites rewritten, within
the queries it holds too when `deep`. -/
def Expr.mapColumns (f : Option String → String → Nat → Option Expr) (deep : Bool) : Expr → Expr
  | .literal v => .literal v
  | .column q n o => (f q n o).getD (.column q n o)
  | .unary op e => .unary op (e.mapColumns f deep)
  | .binary op a b => .binary op (a.mapColumns f deep) (b.mapColumns f deep)
  | .isNull e negated => .isNull (e.mapColumns f deep) negated
  | .cast e t => .cast (e.mapColumns f deep) t
  | .call n args star distinct o => .call n (Expr.mapColumnsList f deep args) star distinct o
  | .between e lo hi negated =>
    .between (e.mapColumns f deep) (lo.mapColumns f deep) (hi.mapColumns f deep) negated
  | .inList e items negated => .inList (e.mapColumns f deep) (Expr.mapColumnsList f deep items) negated
  | .caseOf operand branches otherwise =>
    .caseOf (Expr.mapColumnsOption f deep operand) (Expr.mapColumnsBranches f deep branches)
      (Expr.mapColumnsOption f deep otherwise)
  | .collate e n => .collate (e.mapColumns f deep) n
  | .window n args star partition order frame o =>
    .window n (Expr.mapColumnsList f deep args) star (Expr.mapColumnsList f deep partition)
      (Expr.mapColumnsOrder f deep order) frame o
  | .subquery q => .subquery (if deep then q.mapColumns f deep else q)
  | .exists q => .exists (if deep then q.mapColumns f deep else q)
  | .inQuery e rows negated => .inQuery (e.mapColumns f deep) (rows.mapColumns f deep) negated
  | .found vs aff coll => .found vs aff coll

/-- `Expr.mapColumns` on each expression of a list. -/
def Expr.mapColumnsList (f : Option String → String → Nat → Option Expr) (deep : Bool) : List Expr → List Expr
  | [] => []
  | e :: es => e.mapColumns f deep :: Expr.mapColumnsList f deep es

/-- `Expr.mapColumns` on the terms of a window's order. -/
def Expr.mapColumnsOrder (f : Option String → String → Nat → Option Expr) (deep : Bool) : List (Expr × Bool) → List (Expr × Bool)
  | [] => []
  | (e, d) :: es => (e.mapColumns f deep, d) :: Expr.mapColumnsOrder f deep es

/-- `Expr.mapColumns` on an optional expression. -/
def Expr.mapColumnsOption (f : Option String → String → Nat → Option Expr) (deep : Bool) : Option Expr → Option Expr
  | none => none
  | some e => some (e.mapColumns f deep)

/-- `Expr.mapColumns` on the branches of a `CASE`. -/
def Expr.mapColumnsBranches (f : Option String → String → Nat → Option Expr) (deep : Bool) : List (Expr × Expr) → List (Expr × Expr)
  | [] => []
  | (c, r) :: bs => (c.mapColumns f deep, r.mapColumns f deep) :: Expr.mapColumnsBranches f deep bs

/-- `Expr.mapColumns` on the result columns of a query. -/
def ResultColumn.mapColumnsList (f : Option String → String → Nat → Option Expr) (deep : Bool) : List ResultColumn → List ResultColumn
  | [] => []
  | .expr e label text :: cs => .expr (e.mapColumns f deep) label text :: ResultColumn.mapColumnsList f deep cs
  | c :: cs => c :: ResultColumn.mapColumnsList f deep cs

/-- `Expr.mapColumns` on the join conditions and queries of the sources of a query. -/
def SourceRef.mapColumnsList (f : Option String → String → Nat → Option Expr) (deep : Bool) : List SourceRef → List SourceRef
  | [] => []
  | ⟨name, label, join, constraint, usingColumns, natural, schema, query⟩ :: rs =>
    ⟨name, label, join, Expr.mapColumnsOption f deep constraint, usingColumns, natural, schema,
      Select.mapColumnsOption f deep query⟩ :: SourceRef.mapColumnsList f deep rs

/-- `Expr.mapColumns` on sort or grouping terms. -/
def OrderTerm.mapColumnsList (f : Option String → String → Nat → Option Expr) (deep : Bool) : List OrderTerm → List OrderTerm
  | [] => []
  | ⟨e, descending, numberOffset, nullsFirst⟩ :: ts =>
    ⟨e.mapColumns f deep, descending, numberOffset, nullsFirst⟩ :: OrderTerm.mapColumnsList f deep ts

/-- `Expr.mapColumns` through a query and the queries it holds. -/
def Select.mapColumns (f : Option String → String → Nat → Option Expr) (deep : Bool) : Select → Select
  | ⟨distinct, columns, sources, filter, groupBy, having, orderBy, limit, offset, compound, ctes, windows⟩ =>
    ⟨distinct, ResultColumn.mapColumnsList f deep columns, SourceRef.mapColumnsList f deep sources,
      Expr.mapColumnsOption f deep filter, OrderTerm.mapColumnsList f deep groupBy,
      Expr.mapColumnsOption f deep having, OrderTerm.mapColumnsList f deep orderBy,
      Expr.mapColumnsOption f deep limit, Expr.mapColumnsOption f deep offset,
      Select.mapColumnsCompound f deep compound, Select.mapColumnsBound f deep ctes, windows⟩

/-- `Select.mapColumns` on an optional query. -/
def Select.mapColumnsOption (f : Option String → String → Nat → Option Expr) (deep : Bool) : Option Select → Option Select
  | none => none
  | some q => some (q.mapColumns f deep)

/-- `Select.mapColumns` on the further queries of a compound query. -/
def Select.mapColumnsCompound (f : Option String → String → Nat → Option Expr) (deep : Bool) : List (CompoundOp × Select) → List (CompoundOp × Select)
  | [] => []
  | (op, q) :: qs => (op, q.mapColumns f deep) :: Select.mapColumnsCompound f deep qs

/-- `Select.mapColumns` on the queries of `WITH`. -/
def Select.mapColumnsBound (f : Option String → String → Nat → Option Expr) (deep : Bool) :
    List (String × Option (List String) × Select) → List (String × Option (List String) × Select)
  | [] => []
  | (n, cs, q) :: qs => (n, cs, q.mapColumns f deep) :: Select.mapColumnsBound f deep qs

end

/-- `Expr.mapColumns` on a result column. -/
def ResultColumn.mapColumns (f : Option String → String → Nat → Option Expr) (deep : Bool) : ResultColumn → ResultColumn
  | .expr e label text => .expr (e.mapColumns f deep) label text
  | c => c

/-- `Expr.mapColumns` through the expressions and queries of a statement that
changes rows or reads them; other statements are left as they are. -/
def Statement.mapColumns (f : Option String → String → Nat → Option Expr) :
    Statement → Statement
  | .insert table schema columns source conflict returning =>
    let source := match source with
      | .values rows => .values (rows.map (Expr.mapColumnsList f true))
      | .query q => .query (q.mapColumns f true)
      | .defaults => .defaults
    .insert table schema columns source conflict (returning.map (·.mapColumns f true))
  | .update table schema assignments filter conflict returning =>
    .update table schema (assignments.map fun (c, e) => (c, e.mapColumns f true))
      (filter.map (·.mapColumns f true)) conflict (returning.map (·.mapColumns f true))
  | .delete table schema filter returning =>
    .delete table schema (filter.map (·.mapColumns f true)) (returning.map (·.mapColumns f true))
  | .query q => .query (q.mapColumns f true)
  | s => s

/-- The rows a trigger reads: each under its qualifier (`new` or `old`), with
its column names and values and its row id. -/
structure BoundRow where
  qualifier : String
  columns : List String
  values : List Value
  rowid : Option Int

/-- The value a reference `q.n` reads from the bound rows, if it reads one. -/
def BoundRow.lookup (rows : List BoundRow) (q : Option String) (n : String) : Option Expr :=
  match q with
  | none => none
  | some q =>
    (rows.find? fun r => r.qualifier.toLower == q.toLower).bind fun r =>
      match r.columns.findIdx? fun c => c.toLower == n.toLower with
      | some i => some (.literal (r.values.getD i .null))
      | none =>
        let lower := n.toLower
        if lower == "rowid" || lower == "oid" || lower == "_rowid_" then
          some (.literal (match r.rowid with
            | some id => .integer id
            | none => .null))
        else none

/-- A trigger's statement with its references to the bound rows replaced by
their values. -/
def Statement.bindRow (rows : List BoundRow) (s : Statement) : Statement :=
  Statement.mapColumns (fun q n _ => BoundRow.lookup rows q n) s

end Timeline.Sql
