import Timeline.Sql.Access
import Timeline.Sql.Bind
import Timeline.Sql.NamedWindow
/-!
# Running queries

A query reads its sources in the order `FROM` names them, every row of a later
source for each combination of rows before it:

* an inner join keeps the combinations its condition holds for;
* a `LEFT JOIN` source that has no matching row contributes nulls;
* a `RIGHT JOIN` adds, after the matched combinations, each of its rows that
  matched none, with nulls for the sources before it; a `FULL JOIN` does both;
* `USING` and `NATURAL` compare the columns a source shares with the sources
  before it (the first of them that has the column), and `*` shows a shared
  column once.

`WHERE` then keeps the combinations it holds for.

A query that has `GROUP BY`, or whose result columns call an aggregate
function, is an aggregate query: its rows are gathered into groups of equal
`GROUP BY` values, in the order of those values (one group of all rows when
there is no `GROUP BY`), `HAVING` keeps the groups it holds for, and each group
gives one result row.

Functions over windows are computed next, window by window from the last
written to the first, each pass taking the rows in its window's order; the
rows leave in the order of the first window. `ORDER BY` then sorts the result
rows stably (nulls first, descending terms reversed, texts under each term's
collation), and `LIMIT` and `OFFSET` cut them.

Names are checked before any row is read, in the order the database reports
them: the sources and their `USING` columns, the expansion of `*`, the result
columns one by one, `HAVING`, `WHERE` together with the join conditions,
`ORDER BY` and `GROUP BY`. Outside the result columns a bare name that no
source has may name a result column by its `AS` name. An `ORDER BY` or
`GROUP BY` term that is an integer names a result column by position; an
`ORDER BY` term that is a bare name of a result column names that column.

A view is read by running its query, and a name of `WITH` by running its query
where the name is read. A `WITH` query whose later parts read the name itself
is recursive: its first parts give the first rows, and each row taken from the
queue of rows not yet read runs the later parts once more with the name
standing for that one row.
-/

namespace Timeline.Sql

/-- The result of a query: its column names, their affinities (none for a
column of no affinity) and collations, and its rows. -/
structure ResultSet where
  columns : List String
  affinities : List (Option Affinity)
  collations : List Collation
  rows : List (List Value)

/-- The rows of a source with their row ids, and its shape. -/
structure Relation where
  shape : SourceShape
  rows : List (List Value × Option Int)

/-- A result column after `*` is expanded: its expression, its name, and the
name `AS` gave it. -/
structure OutputColumn where
  expr : Expr
  name : String
  label : Option String := none

/-- What a sort term sorts by: a result column by position, or an expression. -/
inductive SortKey where
  | result (index : Nat)
  | expr (e : Expr)

/-- A sort term once checked: what it sorts by, and how. -/
structure SortTerm where
  key : SortKey
  order : TermOrder

/-- The column a `*` stands for in a source: qualified by the source, or bare
when a source after it is joined by `RIGHT` or `FULL JOIN` and one after it
shares the column by `USING`, so that the column reads as the join shares it. -/
def starColumn (scope : Scope) (i : Nat) (s : SourceShape) (n : String) : Expr :=
  let later := scope.drop (i + 1)
  if later.any (fun t => t.join == .right || t.join == .full) &&
      later.any (fun t => t.usingColumns.any (sameName · n)) then .column none n 0
  else .column (some s.name) n 0

/-- The result columns after expansion of `*` and `source.*`. A column without
an `AS` name is named after the column it reads, or else after its text. A
bare `*` leaves out the columns a source shares with those before it. -/
def expandColumns (scope : Scope) : List ResultColumn → Except SqlError (List OutputColumn)
  | [] => .ok []
  | c :: cs => do
    let here ← match c with
      | .all =>
        if scope.isEmpty then .error (.unsupported "no tables specified")
        else .ok (scope.zipIdx.flatMap fun (s, i) =>
          (s.columns.filter fun (n, _) => !(i > 0 && s.usingColumns.any (sameName · n))).map
            fun (n, _) => ⟨starColumn scope i s n, n, none⟩)
      | .allOf q _ =>
        match scope.zipIdx.find? (sameName ·.1.name q) with
        | some (s, i) => .ok (s.columns.map fun (n, _) => ⟨starColumn scope i s n, n, none⟩)
        | none => .error (.noSuchTable q)
      | .expr e label text =>
        let name := match label, e with
          | some a, _ => a
          | none, .column q n o => match scope.resolve q n o with
            | .ok r => r.name
            | .error _ => text
          | none, _ => text
        .ok [⟨e, name, label⟩]
    pure (here ++ (← expandColumns scope cs))

/-- The number a sort or grouping term is: an integer literal within 32 bits,
maybe signed. -/
def Expr.termNumber? : Expr → Option Int
  | .literal (.integer k) => if k ≤ 2147483647 then some k else none
  | .unary .plus e => e.termNumber?
  | .unary .negate e => e.termNumber?.map (- ·)
  | _ => none

/-- The collation a term names with a `COLLATE` around it, if it names one. -/
def namedCollation (e : Expr) : Except SqlError (Option Collation) :=
  match e with
  | .collate _ n =>
    match Collation.ofName? n with
    | some c => .ok (some c)
    | none => .error (.noSuchCollation n)
  | _ => .ok none

/-- What the terms of `ORDER BY` or `GROUP BY` stand for once checked: result
columns by position, or expressions; each under the collation it names, else
that of what it sorts by. -/
def checkTerms (scope : Scope) (ctx : NameContext) (outputs : List OutputColumn)
    (clause : String) (terms : List OrderTerm) : Except SqlError (List SortTerm) := do
  let keys ← terms.zipIdx.mapM fun ((t : OrderTerm), (i : Nat)) => do
    let bare := t.expr.withoutCollate
    let named : Option Nat := match clause, bare with
      | "ORDER", .column none n _ => outputs.findIdx? (·.label.any (sameName · n))
      | _, _ => none
    let key ← match named, bare.termNumber? with
      | some j, _ => pure (SortKey.result j)
      | none, some k =>
        if k < 1 || k > 65535 then
          throw (SqlError.termOutOfRange clause (i + 1) outputs.length (some t.numberOffset))
        else pure (SortKey.result (k.toNat - 1))
      | none, none =>
        t.expr.checkAt scope ctx
        pure (.expr (t.expr.substitute scope ctx))
    let own := match key with
      | .result j => (outputs[j]?.bind (·.expr.collationIn scope))
      | .expr e => e.collationIn scope
    let coll := (← namedCollation t.expr) <|> own
    let order := TermOrder.plain t.descending (coll.getD .binary)
    pure (⟨key, { order with nullsFirst := t.nullsFirst.getD order.nullsFirst }⟩ : SortTerm)
  match keys.zipIdx.find? (fun (k, _) => match k.key with
      | .result j => j ≥ outputs.length
      | .expr _ => false) with
  | some (_, i) => throw (.termOutOfRange clause (i + 1) outputs.length none)
  | none => pure keys

/-- Whether two rows are equal value by value under the collations, nulls
equal to nulls. -/
def sameRow (colls : List Collation) (a b : List Value) : Bool :=
  a.length == b.length &&
    (a.zip b).zipIdx.all fun ((x, y), i) => x.compareWith (colls.getD i .binary) y == .eq

/-- Keeps the first of rows that are equal. -/
def distinctRows {α : Type} (colls : List Collation) (key : α → List Value) (rows : List α) : List α :=
  rows.foldl (fun acc r => if acc.any (fun s => sameRow colls (key s) (key r)) then acc else acc ++ [r]) []

/-- The integer of a `LIMIT` or `OFFSET` expression. -/
def countOf (e : Expr) : Except SqlError Int := do
  match ← e.eval [] [] with
  | .integer n => pure n
  | v => match v.withAffinity .numeric with
    | .integer n => pure n
    | _ => throw .datatypeMismatch

/-- Joins one more source to the combinations of rows of the sources before
it (whose shapes are `before`), under the join's kind and condition, which
`holds` tells whether a combination meets. -/
def joinStep (holds : Option Expr → Frame → Except SqlError Bool) (before : List SourceShape)
    (frames : List Frame) (rel : Relation) (kind : JoinKind) (cond : Option Expr) :
    Except SqlError (List Frame) := do
  let found ← frames.mapM fun f => rel.rows.mapM fun r => holds cond (f ++ [r])
  let nullRight : List Value × Option Int := (List.replicate rel.shape.columns.length .null, none)
  let matched := (frames.zip found).flatMap fun (f, hits) =>
    let kept := (rel.rows.zip hits).filterMap fun (r, hit) => if hit then some (f ++ [r]) else none
    if kept.isEmpty && (kind == .left || kind == .full) then [f ++ [nullRight]] else kept
  let nullLeft : Frame := before.map fun s => (List.replicate s.columns.length .null, none)
  let unmatched :=
    if kind == .right || kind == .full then
      (rel.rows.zipIdx.filter fun (_, j) => !found.any (·.getD j false)).map fun (r, _) => nullLeft ++ [r]
    else []
  pure (matched ++ unmatched)

/-- The combinations of rows of the sources, joined in order. -/
def joinRows (holds : Option Expr → Frame → Except SqlError Bool)
    (sources : List (Relation × JoinKind × Option Expr)) : Except SqlError (List Frame) := do
  let (frames, _) ← sources.foldlM (fun (acc : List Frame × List SourceShape) (rel, kind, cond) => do
    pure (← joinStep holds acc.2 acc.1 rel kind cond, acc.2 ++ [rel.shape])) ([[]], [])
  pure frames

/-- Sets each source's join and the columns it shares with the sources before
it: those `USING` names, each of which both sides must have, or for `NATURAL`
every column of it that a source before it has. -/
def shareColumns (relations : List Relation) (refs : List SourceRef) : Except SqlError (List Relation) := do
  let (done, _) ← (relations.zip refs).foldlM
    (fun (acc : List Relation × List SourceShape) (rel, ref) => do
      let (done, before) := acc
      let hasColumn (s : SourceShape) (n : String) : Bool := s.columns.any (sameName ·.1 n)
      let shared ←
        if ref.natural then
          pure ((rel.shape.columns.map (·.1)).filter fun n => before.any (hasColumn · n))
        else
          ref.usingColumns.mapM fun n =>
            if hasColumn rel.shape n && before.any (hasColumn · n) then pure n
            else throw (SqlError.unsupported
              ("cannot join using column " ++ n ++ " - column not present in both tables"))
      let shape := { rel.shape with join := ref.join, usingColumns := shared }
      pure (done ++ [{ rel with shape }], before ++ [shape])) ([], [])
  pure done

/-- The condition of a source's join: its `ON` expression, or the equality of
each shared column with that of the first source before it that has it. -/
def joinCondition (before : List SourceShape) (shape : SourceShape) (ref : SourceRef) : Option Expr :=
  let equalities := shape.usingColumns.filterMap fun n =>
    (before.find? (·.columns.any (sameName ·.1 n))).map fun s =>
      Expr.binary .eq (.column (some s.name) n 0) (.column (some shape.name) n 0)
  match equalities with
  | [] => ref.constraint
  | e :: es => some (es.foldl (.binary .and) e)

/-- Both conditions, the first before the second. -/
def andAlso : Option Expr → Option Expr → Option Expr
  | some a, some b => some (.binary .and a b)
  | a, none => a
  | none, b => b

mutual

/-- Whether two expressions are the same, columns compared by what they name. -/
def Expr.sameAs (scope : Scope) : Expr → Expr → Bool
  | .literal v, .literal w => v.typeName == w.typeName && v.compare w == .eq
  | .column q n o, .column q' n' o' =>
    match scope.resolve q n o, scope.resolve q' n' o' with
    | .ok r, .ok r' => match r.ref, r'.ref with
      | .cell s c, .cell s' c' => s == s' && c == c'
      | .rowid s, .rowid s' => s == s'
      | _, _ => false
    | _, _ => false
  | .unary op e, .unary op' e' => op == op' && e.sameAs scope e'
  | .binary op a b, .binary op' a' b' => op == op' && a.sameAs scope a' && b.sameAs scope b'
  | .isNull e n, .isNull e' n' => n == n' && e.sameAs scope e'
  | .cast e t, .cast e' t' => t.toLower == t'.toLower && e.sameAs scope e'
  | .call n args s d _, .call n' args' s' d' _ =>
    n.toLower == n'.toLower && s == s' && d == d' && Expr.sameList scope args args'
  | .between e lo hi n, .between e' lo' hi' n' =>
    n == n' && e.sameAs scope e' && lo.sameAs scope lo' && hi.sameAs scope hi'
  | .inList e items n, .inList e' items' n' => n == n' && e.sameAs scope e' && Expr.sameList scope items items'
  | .caseOf o bs d, .caseOf o' bs' d' =>
    Expr.sameOption scope o o' && Expr.sameBranches scope bs bs' && Expr.sameOption scope d d'
  | .collate e n, .collate e' n' => sameName n n' && e.sameAs scope e'
  | _, _ => false

/-- Whether two lists of expressions are the same, item by item. -/
def Expr.sameList (scope : Scope) : List Expr → List Expr → Bool
  | [], [] => true
  | e :: es, e' :: es' => e.sameAs scope e' && Expr.sameList scope es es'
  | _, _ => false

/-- Whether two optional expressions are the same. -/
def Expr.sameOption (scope : Scope) : Option Expr → Option Expr → Bool
  | none, none => true
  | some e, some e' => e.sameAs scope e'
  | _, _ => false

/-- Whether the branches of two `CASE` expressions are the same. -/
def Expr.sameBranches (scope : Scope) : List (Expr × Expr) → List (Expr × Expr) → Bool
  | [], [] => true
  | (c, r) :: bs, (c', r') :: bs' => c.sameAs scope c' && r.sameAs scope r' && Expr.sameBranches scope bs bs'
  | _, _ => false

end

/-- Whether the terms of two windows' orders are the same. -/
def sameOrder (scope : Scope) : List (Expr × Bool) → List (Expr × Bool) → Bool
  | [], [] => true
  | (e, d) :: es, (e', d') :: es' => d == d' && e.sameAs scope e' && sameOrder scope es es'
  | _, _ => false

/-- The name of the source that holds the values of a query's window calls;
no name written in a query can be it. -/
def windowSource : String := "\x00window"

/-- The column of the window source that holds the value of a window call. -/
def windowColumnName (i : Nat) : String := "\x00" ++ toString i

mutual

/-- The expression with each window call replaced by the column of the window
source that holds its value, the calls numbered from `next`; and the calls, in
the order they are written. -/
def Expr.liftWindows (next : Nat) : Expr → Expr × List Expr
  | .window n args star partition order frame o =>
    (.column (some windowSource) (windowColumnName next) 0, [.window n args star partition order frame o])
  | .literal v => (.literal v, [])
  | .column q n o => (.column q n o, [])
  | .unary op e =>
    let (e, ws) := e.liftWindows next
    (.unary op e, ws)
  | .binary op a b =>
    let (a, wa) := a.liftWindows next
    let (b, wb) := b.liftWindows (next + wa.length)
    (.binary op a b, wa ++ wb)
  | .isNull e negated =>
    let (e, ws) := e.liftWindows next
    (.isNull e negated, ws)
  | .cast e t =>
    let (e, ws) := e.liftWindows next
    (.cast e t, ws)
  | .call n args star distinct o =>
    let (args, ws) := Expr.liftWindowsList next args
    (.call n args star distinct o, ws)
  | .between e lo hi negated =>
    let (e, we) := e.liftWindows next
    let (lo, wl) := lo.liftWindows (next + we.length)
    let (hi, wh) := hi.liftWindows (next + we.length + wl.length)
    (.between e lo hi negated, we ++ wl ++ wh)
  | .inList e items negated =>
    let (e, we) := e.liftWindows next
    let (items, wi) := Expr.liftWindowsList (next + we.length) items
    (.inList e items negated, we ++ wi)
  | .caseOf operand branches otherwise =>
    let (operand, wo) := Expr.liftWindowsOption next operand
    let (branches, wb) := Expr.liftWindowsBranches (next + wo.length) branches
    let (otherwise, we) := Expr.liftWindowsOption (next + wo.length + wb.length) otherwise
    (.caseOf operand branches otherwise, wo ++ wb ++ we)
  | .collate e n =>
    let (e, ws) := e.liftWindows next
    (.collate e n, ws)
  | .subquery q => (.subquery q, [])
  | .exists q => (.exists q, [])
  | .inQuery e rows negated =>
    let (e, ws) := e.liftWindows next
    (.inQuery e rows negated, ws)
  | .found vs aff coll => (.found vs aff coll, [])

/-- `Expr.liftWindows` on a list of expressions, numbering on. -/
def Expr.liftWindowsList (next : Nat) : List Expr → List Expr × List Expr
  | [] => ([], [])
  | e :: es =>
    let (e, we) := e.liftWindows next
    let (es, ws) := Expr.liftWindowsList (next + we.length) es
    (e :: es, we ++ ws)

/-- `Expr.liftWindows` on an optional expression. -/
def Expr.liftWindowsOption (next : Nat) : Option Expr → Option Expr × List Expr
  | none => (none, [])
  | some e =>
    let (e, ws) := e.liftWindows next
    (some e, ws)

/-- `Expr.liftWindows` on the branches of a `CASE`, numbering on. -/
def Expr.liftWindowsBranches (next : Nat) : List (Expr × Expr) → List (Expr × Expr) × List Expr
  | [] => ([], [])
  | (c, r) :: bs =>
    let (c, wc) := c.liftWindows next
    let (r, wr) := r.liftWindows (next + wc.length)
    let (bs, wb) := Expr.liftWindowsBranches (next + wc.length + wr.length) bs
    ((c, r) :: bs, wc ++ wr ++ wb)

end

/-- The window calls of a query that share one window's partition and order. -/
structure WindowSpec where
  partition : List Expr
  order : List (Expr × Bool)
  calls : List WindowCall

/-- The window calls of a query, numbered in order, grouped by window in the
order each window is first written; a window that builds on a named window of
the query (`defs`) is resolved first. -/
def groupWindows (scope : Scope) (defs : List (String × WindowParts)) (calls : List Expr) :
    Except SqlError (List WindowSpec) :=
  calls.zipIdx.foldlM (fun specs (call, i) =>
    match call with
    | .window n args star partition order frame _ => do
      let (partition, order, frame) ← chainWindow defs partition order frame
      let c : WindowCall := ⟨i, n, args, star, frame⟩
      match specs.findIdx? fun s => Expr.sameList scope s.partition partition && sameOrder scope s.order order with
      | some j => pure (specs.modify j fun s => { s with calls := s.calls ++ [c] })
      | none => pure (specs ++ [⟨partition, order, [c]⟩])
    | _ => pure specs) []

/-- The result rows of a group of an aggregate query, with the row of the
group its columns are read from, or none when `HAVING` drops the group;
`eval` evaluates an expression at a row. -/
def groupRow (scope : Scope) (eval : Frame → Expr → Except SqlError Value) (calls : List Expr)
    (having : Option Expr) (group : List Frame) : Except SqlError (Option (Frame × List Frame)) := do
  let rep ← representative scope calls group
  if let some h := having then
    if (← eval rep (← h.reduceAggregates scope group)).truth? != some true then return none
  pure (some (rep, group))

/-- A query whose names are checked, ready to run over the rows of its sources. -/
structure Plan where
  relations : List Relation
  /-- How each source is joined: its kind and its condition. -/
  joins : List (JoinKind × Option Expr)
  /-- The sources, and last the window source when there are window calls. -/
  scope : Scope
  outputs : List OutputColumn
  aggregate : Bool
  filter : Option Expr
  groupExprs : List Expr
  groupCollations : List Collation
  having : Option Expr
  /-- The aggregate calls of the result columns, the sort terms and `HAVING`, in order. -/
  calls : List Expr
  keys : List SortTerm
  windows : List WindowSpec
  distinct : Bool
  /-- Runs the queries within an expression for a row of the sources. -/
  expand : Scope → Frame → Expr → Except SqlError Expr := fun _ _ e => .ok e

/-- The value of an expression at a row of a query's sources, the queries
within it run for that row. -/
def Plan.evalAt (p : Plan) (f : Frame) (e : Expr) : Except SqlError Value := do
  (← p.expand p.scope f e).eval p.scope f

/-- Whether an optional condition holds at a row of a query's sources; no
condition always holds. -/
def Plan.holds (p : Plan) (cond : Option Expr) (f : Frame) : Except SqlError Bool :=
  match cond with
  | none => .ok true
  | some c => do pure ((← p.evalAt f c).truth? == some true)

/-- Checks a query over the rows of its sources; its sort terms are checked
only when it is not part of a compound query (`sorted`). -/
def Plan.make (relations : List Relation) (q : Select) (sorted : Bool) : Except SqlError Plan := do
  let relations ← shareColumns relations q.sources
  let base : Scope := relations.map (·.shape)
  let joins := (relations.zip q.sources).zipIdx.map fun ((rel, ref), i) =>
    (ref.join, joinCondition (base.take i) rel.shape ref)
  let outputs ← expandColumns base q.columns
  for o in outputs do o.expr.checkAt base { aggregates := true, windows := true }
  let aggregate := !q.groupBy.isEmpty || outputs.any (·.expr.hasAggregate)
  let ctx : NameContext :=
    { aggregates := aggregate, aliases := outputs.filterMap fun o => o.label.map (·, o.expr) }
  if let some h := q.having then
    if !aggregate then throw .havingWithoutAggregate
    h.checkAt base ctx
  let condition := (joins.map (·.2)).foldl andAlso q.filter
  if let some c := condition then c.checkAt base ctx
  let keys ← if sorted then checkTerms base { ctx with windows := true } outputs "ORDER" q.orderBy
    else pure []
  let groupKeys ← checkTerms base ctx outputs "GROUP" q.groupBy
  let groupExprs := groupKeys.map fun k => match k.key with
    | .result i => (outputs.getD i ⟨.literal .null, "", none⟩).expr
    | .expr e => e
  if groupExprs.any (·.hasAggregate) then throw .aggregateInGroupBy
  let having := q.having.map (·.substitute base ctx)
  let filter := q.filter.map (·.substitute base ctx)
  let joins := joins.map fun (kind, c) => (kind, c.map (·.substitute base ctx))
  let calls := (outputs.map (·.expr) ++ keys.filterMap (fun k => match k.key with
    | .expr e => some e
    | _ => none) ++ having.toList).flatMap (·.aggregateCalls)
  if calls.any (fun | .call _ args _ distinct _ => distinct && args.length != 1 | _ => false) then
    throw .distinctAggregateArity
  if let some c := condition then
    if let some (.call n _ _ _ o) := c.aggregateCalls.head? then throw (.aggregateOnRows n o)
  -- window calls become columns of the window source
  let (outputExprs, outputWindows) := Expr.liftWindowsList 0 (outputs.map (·.expr))
  let (keys, keyWindows) := keys.foldl (fun (acc : List SortTerm × List Expr) k =>
    match k.key with
    | .expr e =>
      let (e, ws) := e.liftWindows (outputWindows.length + acc.2.length)
      (acc.1 ++ [{ k with key := .expr e }], acc.2 ++ ws)
    | .result _ => (acc.1 ++ [k], acc.2)) ([], [])
  let windowCalls := outputWindows ++ keyWindows
  let windows ← groupWindows base q.windows windowCalls
  let scope := if windowCalls.isEmpty then base
    else base ++ [{ name := windowSource, hasRowid := false, rowidColumn := none,
                    columns := (List.range windowCalls.length).map fun i => (windowColumnName i, .blob) }]
  let outputs := (outputs.zip outputExprs).map fun (o, e) => { o with expr := e }
  pure { relations, joins, scope, outputs, aggregate, filter, groupExprs,
         groupCollations := groupKeys.map (·.order.collation), having, calls, keys, windows,
         distinct := q.distinct }

/-- Computes the window calls of a query for its rows, read by `eval`: the rows
in the order of the first window, each with the values of the calls by number. -/
def Plan.applyWindows {α : Type} (p : Plan) (eval : α → Expr → Except SqlError Value)
    (rows : List α) : Except SqlError (List (α × List Value)) := do
  let total := p.windows.foldl (fun n w => n + w.calls.length) 0
  let passed ← p.windows.reverse.foldlM
    (fun acc w => windowPass p.scope eval w.partition w.order w.calls acc) (rows.map (·, []))
  pure (passed.map fun (x, found) =>
    (x, (List.range total).map fun i => ((found.find? (·.1 == i)).map (·.2)).getD .null))

/-- The collations of a query's result columns, none for a column that has none. -/
def Plan.outputCollations (p : Plan) : List (Option Collation) :=
  p.outputs.map (·.expr.collationIn p.scope)

/-- The result rows of a checked query, each with its sort values, equal rows
dropped when the query is `DISTINCT`. -/
def Plan.rows (p : Plan) : Except SqlError (List (List Value × List Value)) := do
  let scope := p.scope
  let width := p.relations.length
  let frames ← joinRows p.holds (p.relations.zip p.joins)
  let frames ← frames.filterM (p.holds p.filter)
  let finish (valueOf : Expr → Except SqlError Value) : Except SqlError (List Value × List Value) := do
    let values ← p.outputs.mapM (valueOf ·.expr)
    let sortValues ← p.keys.mapM fun k => do
      match k.key with
      | .result i => pure (values.getD i .null)
      | .expr e => valueOf e
    pure (values, sortValues)
  let rows ← if p.aggregate then do
      let groups ← if p.groupExprs.isEmpty then pure [frames] else do
        let keyed ← frames.mapM fun f => do pure ((← p.groupExprs.mapM (p.evalAt f)), f)
        pure (groupByKeys p.groupCollations keyed)
      let kept := (← groups.mapM (groupRow scope p.evalAt p.calls p.having)).reduceOption
      let evalGroup := fun ((rep, group) : Frame × List Frame) (e : Expr) => do
        p.evalAt rep (← e.reduceAggregates scope group)
      let withWindows ← p.applyWindows evalGroup kept
      withWindows.mapM fun ((rep, group), found) =>
        finish (evalGroup (rep.take width ++ [(found, none)], group))
    else do
      let withWindows ← p.applyWindows p.evalAt frames
      withWindows.mapM fun (f, found) => finish (p.evalAt (f.take width ++ [(found, none)]))
  let colls := p.outputCollations.map (·.getD .binary)
  pure (if p.distinct then distinctRows colls (·.1) rows else rows)

/-- The names, affinities and collations of a query's result columns. -/
def Plan.header (p : Plan) : List String × List (Option Affinity) × List Collation :=
  (p.outputs.map (·.name), p.outputs.map (·.expr.affinity p.scope),
    p.outputCollations.map (·.getD .binary))

/-- The result column a sort term of a compound query names in one of its
queries: by its `AS` name, or as an expression that is one of its result
columns; a term that does not check there names none. -/
def Plan.termColumn? (p : Plan) (e : Expr) : Option Nat :=
  match e with
  | .column none n _ =>
    match p.outputs.findIdx? (·.label.any (sameName · n)) with
    | some i => some i
    | none => matchOutput
  | _ => matchOutput
where
  matchOutput : Option Nat :=
    let ctx : NameContext :=
      { aggregates := true, aliases := p.outputs.filterMap fun o => o.label.map (·, o.expr) }
    match e.checkAt p.scope ctx with
    | .error _ => none
    | .ok () =>
      let e := e.substitute p.scope ctx
      p.outputs.findIdx? (·.expr.sameAs p.scope e)

/-- The collation of each result column of a compound query: that of the first
query whose column has one. -/
def compoundCollations (plans : List Plan) : List Collation :=
  let count := (plans.head?.map (·.outputs.length)).getD 0
  (List.range count).map fun i =>
    (plans.findSome? (·.outputCollations.getD i none)).getD .binary

/-- The result columns the sort terms of a compound query name, the queries
tried from the first; a number names a column by position. Each sorts under
the collation it names, else that of its column. -/
def compoundKeys (plans : List Plan) (colls : List Collation) (terms : List OrderTerm) :
    Except SqlError (List (Nat × TermOrder)) := do
  let count := (plans.head?.map (·.outputs.length)).getD 0
  let keys ← terms.zipIdx.mapM fun ((t : OrderTerm), (i : Nat)) => do
    let bare := t.expr.withoutCollate
    let named ← namedCollation t.expr
    let index := match bare.termNumber? with
      | some k => if k < 1 || k > count then none else some (k.toNat - 1)
      | none => plans.findSome? fun (p : Plan) => p.termColumn? bare
    if let some k := bare.termNumber? then
      if k < 1 || k > count then throw (SqlError.termOutOfRange "ORDER" (i + 1) count (some t.numberOffset))
    pure (index.map fun j =>
      let order := TermOrder.plain t.descending (named.getD (colls.getD j .binary))
      (j, { order with nullsFirst := t.nullsFirst.getD order.nullsFirst }))
  match keys.zipIdx.find? (fun (k, _) => k.isNone) with
  | some (_, i) =>
    throw (.unsupported (ordinal (i + 1) ++ " ORDER BY term does not match any column in the result set"))
  | none => pure keys.reduceOption

/-- Compares two rows column by column under the collations. -/
def compareRows (colls : List Collation) : List Value → List Value → Ordering
  | v :: vs, w :: ws =>
    match v.compareWith (colls.headD .binary) w with
    | .eq => compareRows colls.tail vs ws
    | o => o
  | [], [] => .eq
  | [], _ => .lt
  | _, [] => .gt

/-- Rows sorted, each once. -/
def sortedDistinct (colls : List Collation) (rows : List (List Value)) : List (List Value) :=
  let sorted := rows.mergeSort fun a b => compareRows colls a b != .gt
  sorted.foldr (fun r acc => match acc with
    | r' :: _ => if compareRows colls r r' == .eq then acc else r :: acc
    | [] => [r]) []

/-- Joins the rows of a compound query so far with those of its next query. -/
def combineRows (colls : List Collation) (op : CompoundOp) (left right : List (List Value)) :
    List (List Value) :=
  match op with
  | .unionAll => left ++ right
  | .union => sortedDistinct colls (left ++ right)
  | .except => (sortedDistinct colls left).filter fun r => !right.any (compareRows colls r · == .eq)
  | .intersect => (sortedDistinct colls left).filter fun r => right.any (compareRows colls r · == .eq)

/-- Drops the rows before the offset and keeps as many as the limit allows. -/
def cutRows {α : Type} (limit offset : Option Expr) (rows : List α) : Except SqlError (List α) := do
  let skip ← match offset with
    | some e => do pure (max (← countOf e) 0).toNat
    | none => pure 0
  let rows := rows.drop skip
  match limit with
  | some e => do
    let n ← countOf e
    pure (if n < 0 then rows else rows.take n.toNat)
  | none => pure rows

/-- Names made distinct, as the columns of a query read as a source: a name
met before (up to ASCII case) takes `:1`, `:2` and so on in place of any such
ending it had. -/
def distinctNames (names : List String) : List String :=
  names.foldl (fun used n => used ++ [fresh used n]) []
where
  /-- The name itself, or the first numbered form of it not yet used. -/
  fresh (used : List String) (n : String) : String :=
    if !used.any (sameName · n) then n
    else
      let chars := n.toList
      let digits := (chars.reverse.takeWhile Char.isDigit).length
      let stem := chars.take (chars.length - digits)
      let stem := if stem.length > 1 && stem.getLast? == some ':' then stem.dropLast else chars
      let base := String.ofList stem
      let candidates := (List.range (used.length + 1)).map fun k => base ++ ":" ++ toString (k + 1)
      (candidates.find? fun c => !used.any (sameName · c)).getD n

/-- A query's result read as a source under a name. -/
def ResultSet.relation (r : ResultSet) (shown : String) : Relation :=
  ⟨{ name := shown, columns := r.columns.zip (r.affinities.map (·.getD .blob)), hasRowid := false,
     rowidColumn := none,
     collations := r.collations }, r.rows.map fun vs => (vs, none)⟩

/-- The columns of a schema's table of objects. -/
def schemaColumns : List (String × Affinity) :=
  [("type", .text), ("name", .text), ("tbl_name", .text), ("rootpage", .integer), ("sql", .text)]

/-- The entries of the table of objects a name reads, if it names one:
`sqlite_schema` or `sqlite_master` of the schema the qualifier names (`main`
by default), or `sqlite_temp_schema` or `sqlite_temp_master`. -/
def Database.schemaTable? (db : Database) (schema : Option String) (name : String) :
    Option (List (List Value)) :=
  let temp := sameName name "sqlite_temp_master" || sameName name "sqlite_temp_schema"
  let plain := sameName name "sqlite_master" || sameName name "sqlite_schema"
  if !(temp || plain) then none
  else
    let target := match schema with
      | some q => db.schemaNamed? q
      | none => some (if temp then "temp" else "main")
    match target with
    | some s => if temp && s != "temp" then none else some (db.schemaEntries s)
    | none => none

/-- A table read as a source under a name: its rows in row-id order, or in
primary-key order when it has no row ids. -/
def Table.relation (t : Table) (shown : String) : Relation :=
  let terms := t.primaryKey.map fun i => TermOrder.plain false ((t.columns[i]?.map (·.collation)).getD .binary)
  let rows := if t.withoutRowid then
      t.rows.mergeSort fun a b =>
        compareTerms terms (t.primaryKey.map (a.2.getD · .null)) (t.primaryKey.map (b.2.getD · .null)) != .gt
    else t.rows
  ⟨{ name := shown, columns := t.columns.map fun c => (c.name, c.affinity), hasRowid := !t.withoutRowid,
     rowidColumn := t.rowidColumn, collations := t.columns.map (·.collation) },
    rows.map fun (id, vs) => (vs, some id)⟩

/-- The plan of a query of one table with its rows in the order the table is
read: through the index `chooseIndex` takes, if any. -/
def Database.readOrder {β : Type} (db : Database) (env : List (String × β)) (q : Select) (p : Plan) : Plan :=
  match q.sources, p.relations with
  | [ref], [rel] =>
    let bound := ref.query.isSome || (ref.schema.isNone && env.any (sameName ·.1 ref.name))
    match (if bound then none else db.tableAt? ref.schema ref.name) with
    | some t =>
      if t.withoutRowid then p
      else
        let indexes := ((db.indexes.filter fun i => i.schema == t.schema && sameName i.table t.name).mergeSort
          fun a b => a.stamp ≤ b.stamp).map fun i => (i.columns.filterMap t.columnIndex?, i.unique)
        let used := p.outputs.map (·.expr) ++ p.filter.toList ++ p.groupExprs ++ p.having.toList ++
          p.keys.filterMap fun k => match k.key with
            | .expr e => some e
            | .result _ => none
        match chooseIndex t p.scope used p.filter indexes with
        | some key => { p with relations := [{ rel with rows := orderByIndex t key rel.rows }] }
        | none => p
    | none => p
  | _, _ => p

/-- What a name of `WITH` stands for: its query, with the names of its columns
if they are given and its position among the names of its clause; rows
already found (a row of a recursive query); or a query being read, which may
not read itself. -/
inductive Binding where
  | query (columns : Option (List String)) (q : Select) (position : Nat)
  | rows (result : ResultSet)
  | expanding

/-- The names of `WITH` in reach, the innermost clause first and each clause's
names in the order written. The query of a name sees every name of its own
clause and of the clauses around it, its own marked `expanding`. -/
abbrev Bindings := List (String × Binding)

/-- The rows of a recursive query from its queue: each row taken from the
front is a result row, and `step` gives the rows it adds to the queue; under
`UNION` a row met before is not added again. `order` arranges the queue, and
the search stops when `stopAt` rows are found or the fuel runs out. -/
def recursiveRows (step : List Value → Except SqlError (List (List Value))) (distinct : Bool)
    (colls : List Collation) (order : List (List Value) → List (List Value)) (stopAt : Option Nat) :
    Nat → List (List Value) → List (List Value) → List (List Value) →
    Except SqlError (List (List Value))
  | 0, _, _, found => .ok found
  | _ + 1, [], _, found => .ok found
  | fuel + 1, r :: queue, seen, found => do
    if stopAt.any (found.length ≥ ·) then return found
    let found := found ++ [r]
    if stopAt.any (found.length ≥ ·) then return found
    let added ← step r
    let added := if distinct then
        (distinctRows colls id added).filter fun a => !seen.any (sameRow colls a)
      else added
    recursiveRows step distinct colls order stopAt fuel (order (queue ++ added)) (seen ++ added) found

/-- The most rows a recursive query reads from its queue. -/
def recursionLimit : Nat := 1000000

/-- Whether a query reads a name of `WITH` among its sources. -/
def Select.reads (q : Select) (name : String) : Bool :=
  q.sources.any fun r => r.query.isNone && r.schema.isNone && sameName r.name name

/-- How many of the last queries of a compound bound to a name are its
recursive part: the longest run of them that read the name, each joined to
the one before by the same `UNION` or `UNION ALL` as the last. -/
def recursivePartCount (name : String) (parts : List (Option CompoundOp × Select)) : Nat :=
  match parts.getLast? with
  | some (some op, _) =>
    if op == .union || op == .unionAll then
      (parts.reverse.takeWhile fun (o, s) => o == some op && s.reads name).length
    else 0
  | _ => 0

/-- The sort keys of a recursive query's queue: result columns by number or
by name, each with its direction and collation. -/
def queueKeys (r : ResultSet) (terms : List OrderTerm) : List (Nat × TermOrder) :=
  terms.filterMap fun t =>
    let bare := t.expr.withoutCollate
    let index := match bare.termNumber?, bare with
      | some k, _ => if k ≥ 1 then some (k.toNat - 1) else none
      | none, .column _ n _ => r.columns.findIdx? (sameName · n)
      | none, _ => none
    let named := match t.expr with
      | .collate _ n => Collation.ofName? n
      | _ => none
    index.map fun i =>
      let order := TermOrder.plain t.descending (named.getD (r.collations.getD i .binary))
      (i, { order with nullsFirst := t.nullsFirst.getD order.nullsFirst })

/-- The first column of a query's result as values an expression compares:
under the column's affinity, and when `collated` (the right side of `IN`)
under its collation unless that is `BINARY`. A query of more columns than one
is an error. -/
def ResultSet.firstColumn (r : ResultSet) (collated : Bool) : Except SqlError Expr :=
  if r.columns.length != 1 then
    .error (.unsupported ("sub-select returns " ++ toString r.columns.length ++ " columns - expected 1"))
  else
    .ok (.found (r.rows.map (·.headD .null)) (r.affinities.headD none)
      (match collated, r.collations.headD .binary with
        | false, _ | _, .binary => none
        | true, c => some c))

mutual

/-- The expression with each query within it run by `run` and replaced by what
it gives: a query in parentheses and the right side of `IN` by the values of
its column, `EXISTS` by whether it has rows. The queries within those are left
to `run`. -/
def Expr.runQueries (run : Select → Except SqlError ResultSet) : Expr → Except SqlError Expr
  | .literal v => .ok (.literal v)
  | .column q n o => .ok (.column q n o)
  | .unary op e => do pure (.unary op (← e.runQueries run))
  | .binary op a b => do pure (.binary op (← a.runQueries run) (← b.runQueries run))
  | .isNull e negated => do pure (.isNull (← e.runQueries run) negated)
  | .cast e t => do pure (.cast (← e.runQueries run) t)
  | .call n args star distinct o => do pure (.call n (← Expr.runQueriesList run args) star distinct o)
  | .between e lo hi negated => do
    pure (.between (← e.runQueries run) (← lo.runQueries run) (← hi.runQueries run) negated)
  | .inList e items negated => do
    pure (.inList (← e.runQueries run) (← Expr.runQueriesList run items) negated)
  | .caseOf operand branches otherwise => do
    pure (.caseOf (← Expr.runQueriesOption run operand) (← Expr.runQueriesBranches run branches)
      (← Expr.runQueriesOption run otherwise))
  | .collate e n => do pure (.collate (← e.runQueries run) n)
  | .window n args star partition order frame o => do
    pure (.window n (← Expr.runQueriesList run args) star (← Expr.runQueriesList run partition)
      (← Expr.runQueriesOrder run order) frame o)
  | .subquery q => do (← run q).firstColumn false
  | .exists q => do pure (.literal (ofBool !(← run q).rows.isEmpty))
  | .inQuery e rows negated => do
    let rows ← match rows with
      | .subquery q => do (← run q).firstColumn true
      | other => other.runQueries run
    pure (.inQuery (← e.runQueries run) rows negated)
  | .found vs aff coll => .ok (.found vs aff coll)

/-- `Expr.runQueries` on each expression of a list. -/
def Expr.runQueriesList (run : Select → Except SqlError ResultSet) : List Expr → Except SqlError (List Expr)
  | [] => .ok []
  | e :: es => do pure ((← e.runQueries run) :: (← Expr.runQueriesList run es))

/-- `Expr.runQueries` on the terms of a window's order. -/
def Expr.runQueriesOrder (run : Select → Except SqlError ResultSet) :
    List (Expr × Bool) → Except SqlError (List (Expr × Bool))
  | [] => .ok []
  | (e, d) :: es => do pure ((← e.runQueries run, d) :: (← Expr.runQueriesOrder run es))

/-- `Expr.runQueries` on an optional expression. -/
def Expr.runQueriesOption (run : Select → Except SqlError ResultSet) : Option Expr → Except SqlError (Option Expr)
  | none => .ok none
  | some e => do pure (some (← e.runQueries run))

/-- `Expr.runQueries` on the branches of a `CASE`. -/
def Expr.runQueriesBranches (run : Select → Except SqlError ResultSet) :
    List (Expr × Expr) → Except SqlError (List (Expr × Expr))
  | [] => .ok []
  | (c, r) :: bs => do
    pure ((← c.runQueries run, ← r.runQueries run) :: (← Expr.runQueriesBranches run bs))

end

/-- The value a column reference reads from the current row of the nearest
enclosing query whose sources have the column, under the column's affinity
and collation; `outer` holds the enclosing queries' sources and rows, the
nearest first. -/
def outerValue (outer : List (Scope × Frame)) (q : Option String) (n : String) (o : Nat) : Option Expr :=
  outer.findSome? fun (scope, frame) =>
    match scope.resolve q n o with
    | .ok r => some (.found [frame.get r.ref] (some r.affinity) (some r.collation))
    | .error _ => none

/-- A query with each column reference that names no column of its own
sources (`scope`) read from an enclosing query's row, where one has it.
Outside the result columns a bare name that is the `AS` name of one of its
result columns stays its own. The queries within it see to their own
references when they run. -/
def Select.bindOuter (q : Select) (scope : Scope) (outer : List (Scope × Frame)) : Select :=
  if outer.isEmpty then q
  else
    let labels := q.columns.filterMap fun
      | .expr _ (some a) _ => some a
      | _ => none
    let read (aliases : Bool) (qual : Option String) (n : String) (o : Nat) : Option Expr :=
      match scope.resolve qual n o with
      | .error (.noSuchColumn _ _) =>
        if aliases && qual.isNone && labels.any (sameName · n) then none
        else outerValue outer qual n o
      | _ => none
    let term (t : OrderTerm) : OrderTerm := { t with expr := t.expr.mapColumns (read true) false }
    { q with
      columns := q.columns.map (·.mapColumns (read false) false)
      sources := q.sources.map fun s => { s with constraint := s.constraint.map (·.mapColumns (read false) false) }
      filter := q.filter.map (·.mapColumns (read true) false)
      groupBy := q.groupBy.map term
      having := q.having.map (·.mapColumns (read true) false)
      orderBy := q.orderBy.map term }

mutual

/-- The rows of a source: a query's in parentheses, a name of `WITH`, a
table's, or a view's query's. -/
def Database.relation (db : Database) (env : Bindings) : Nat → SourceRef → Except SqlError Relation
  | 0, _ => .error (.unsupported "views nested too deeply")
  | fuel + 1, ref =>
    let shown := ref.label.getD ref.name
    match ref.query with
    | some sub => do
      let r ← db.runSelect env [] fuel sub
      pure ({ r with columns := distinctNames r.columns }.relation shown)
    | none =>
    let bound := if ref.schema.isNone then env.zipIdx.find? (sameName ·.1.1 ref.name) else none
    match bound with
    | some ((_, .rows r), _) => .ok (r.relation shown)
    | some ((name, .expanding), _) => .error (.unsupported ("circular reference: " ++ name))
    | some ((name, .query columns q k), i) => do
      let scope := (env.drop (i - k)).set k (name, .expanding)
      pure ((← db.boundResult scope fuel name columns q).relation shown)
    | none =>
      match db.schemaTable? ref.schema ref.name with
      | some entries =>
        .ok ⟨{ name := shown, columns := schemaColumns, hasRowid := true, rowidColumn := none },
          entries.zipIdx.map fun (vs, i) => (vs, some ((i + 1 : Nat) : Int))⟩
      | none =>
      match db.tableAt? ref.schema ref.name with
      | some t => .ok (t.relation shown)
      | none =>
        match db.viewAt? ref.schema ref.name with
        | some v => do
          let r ← db.runSelect [] [] fuel v.query
          match v.columns with
          | some cs =>
            if cs.length != r.columns.length then
              throw (.unsupported ("expected " ++ toString cs.length ++ " columns for '" ++ v.name ++
                "' but got " ++ toString r.columns.length))
            pure ({ r with columns := cs }.relation shown)
          | none => pure ({ r with columns := distinctNames r.columns }.relation shown)
        | none => .error (.noSuchTable (match ref.schema with
          | some q => q ++ "." ++ ref.name
          | none => ref.name))

/-- The result of the query a name of `WITH` stands for, under its column
names; a query whose later parts read the name is run recursively. -/
def Database.boundResult (db : Database) (env : Bindings) : Nat → String → Option (List String) →
    Select → Except SqlError ResultSet
  | 0, _, _, _ => .error (.unsupported "views nested too deeply")
  | fuel + 1, name, columns, q => do
    let named (r : ResultSet) : Except SqlError ResultSet :=
      match columns with
      | none => .ok { r with columns := distinctNames r.columns }
      | some cs =>
        if cs.length != r.columns.length then
          .error (.unsupported ("table " ++ name ++ " has " ++ toString r.columns.length ++
            " values for " ++ toString cs.length ++ " columns"))
        else .ok { r with columns := cs }
    let parts := (none, { q with compound := [], orderBy := [], limit := none, offset := none }) ::
      q.compound.map fun (op, s) => (some op, s)
    let firstParts := parts.take (parts.length - recursivePartCount name parts)
    let laterParts := parts.drop firstParts.length
    match firstParts, laterParts with
    | (_, first) :: more, (op, _) :: _ =>
      let start ← named (← db.runSelect env [] fuel
        { first with compound := more.filterMap fun (op, s) => op.map (·, s) })
      let distinct := op != some .unionAll
      let bindRow (row : List Value) : Bindings :=
        (name, .rows { start with rows := [row] }) :: env
      let step (row : List Value) : Except SqlError (List (List Value)) := do
        let found ← laterParts.mapM fun (_, s) => do pure (← db.runSelect (bindRow row) [] fuel s).rows
        pure found.flatten
      let keys := queueKeys start q.orderBy
      let order (rows : List (List Value)) : List (List Value) :=
        if keys.isEmpty then rows
        else rows.mergeSort fun a b =>
          compareTerms (keys.map (·.2)) (keys.map fun (i, _) => a.getD i .null)
            (keys.map fun (i, _) => b.getD i .null) != .gt
      let skip ← match q.offset with
        | some e => do pure (max (← countOf e) 0).toNat
        | none => pure 0
      let stopAt ← match q.limit with
        | some e => do
          let n ← countOf e
          pure (if n < 0 then none else some (skip + n.toNat))
        | none => pure none
      let initial := if distinct then distinctRows start.collations id start.rows else start.rows
      let rows ← recursiveRows step distinct start.collations order stopAt recursionLimit
        (order initial) initial []
      pure { start with rows := rows.drop skip }
    | _, _ => named (← db.runSelect env [] fuel q)

/-- The result of a query within the queries `outer` (their sources and
current rows, the nearest first). A compound query checks its queries from the
last to the first, each against the one after it for the number of result
columns, then its sort terms; it runs them from the first. -/
def Database.runSelect (db : Database) (env : Bindings) (outer : List (Scope × Frame)) :
    Nat → Select → Except SqlError ResultSet
  | 0, _ => .error (.unsupported "views nested too deeply")
  | fuel + 1, q => do
    let env := q.ctes.zipIdx.map (fun ((n, columns, s), k) => (n, Binding.query columns s k)) ++ env
    let plan (s : Select) (sorted : Bool) : Except SqlError Plan := do
      let relations ← s.sources.mapM (db.relation env fuel)
      let p ← Plan.make relations (s.bindOuter (relations.map (·.shape)) outer) sorted
      pure { p with expand := fun scope frame e => e.runQueries (db.runSelect env ((scope, frame) :: outer) fuel) }
    if q.compound.isEmpty then
      let p ← plan q true
      let p := db.readOrder env q p
      let rows ← p.rows
      let terms := p.keys.map (·.order)
      let rows := if p.keys.isEmpty then rows else rows.mergeSort fun a b => compareTerms terms a.2 b.2 != .gt
      let rows ← cutRows q.limit q.offset rows
      let (names, affinities, collations) := p.header
      pure ⟨names, affinities, collations, rows.map (·.1)⟩
    else
      let parts := (none, q) :: q.compound.map fun (op, s) => (some op, s)
      -- check from the last query to the first
      let (plans, _) ← parts.reverse.foldlM (fun (acc : List Plan × Option (CompoundOp × Nat)) (op, s) => do
        let p ← plan s false
        if let some (nextOp, width) := acc.2 then
          if p.outputs.length != width then
            throw (.unsupported ("SELECTs to the left and right of " ++ nextOp.name ++
              " do not have the same number of result columns"))
        pure (p :: acc.1, op.map (·, p.outputs.length))) ([], none)
      let colls := compoundCollations plans
      let keys ← compoundKeys plans colls q.orderBy
      let rowSets ← plans.mapM fun p => do pure ((← p.rows).map (·.1))
      let ops := q.compound.map (·.1)
      let rows := match rowSets with
        | first :: rest => (ops.zip rest).foldl (fun acc (op, r) => combineRows colls op acc r) first
        | [] => []
      let terms := keys.map (·.2)
      let rows := if keys.isEmpty then rows
        else rows.mergeSort fun a b =>
          compareTerms terms (keys.map fun (i, _) => a.getD i .null) (keys.map fun (i, _) => b.getD i .null) != .gt
      let rows ← cutRows q.limit q.offset rows
      let (names, affinities, _) := (plans.head?.map (·.header)).getD ([], [], [])
      pure ⟨names, affinities, colls, rows⟩

end

/-- The depth to which views may name views. -/
def viewDepth : Nat := 64

/-- Runs a query on a database. -/
def Database.select (db : Database) (q : Select) : Except SqlError ResultSet :=
  db.runSelect [] [] viewDepth q

/-- The expression with the queries within it run for a row of the sources
`scope`. -/
def Database.runQueriesAt (db : Database) (scope : Scope) (frame : Frame) (e : Expr) :
    Except SqlError Expr :=
  e.runQueries (db.runSelect [] [(scope, frame)] viewDepth)

/-- The value of an expression at a row of the sources `scope`, the queries
within it run for that row first. -/
def Database.evalAt (db : Database) (scope : Scope) (frame : Frame) (e : Expr) :
    Except SqlError Value := do
  (← db.runQueriesAt scope frame e).eval scope frame

end Timeline.Sql
