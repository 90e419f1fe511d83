import Timeline.Sql.Eval
/-!
# Aggregate functions

A query that groups its rows, or that calls an aggregate function, computes
each aggregate over the rows of a group:

* `count(*)` counts the rows, `count(x)` the rows where `x` is not null;
* `sum`, `total` and `avg` add the values that are not null, exactly while
  they are integers whose sum stays within 64 bits, and otherwise as reals with
  a running compensation for rounding. `sum` is null without values and fails
  when integers overflow; `total` is always a real, zero without values; `avg`
  is the sum divided by the number of values;
* `min` and `max` keep the least or the greatest value that is not null;
* `group_concat` and `string_agg` join the texts of the values that are not
  null, with a comma or the given separator between them;
* `DISTINCT` counts each value once.

A text counts as a number for these sums when the whole of it reads as one;
other texts and blobs add the number at their start.

Columns outside the aggregates are read from one row of the group
(`representative`): its first row, or, when the query computes `min` or `max`,
the last row at which the last of them took a new value (a row before the first
value counts as taking one).
-/

namespace Timeline.Sql

/-- A value as the sums read it: a text that reads whole as a number is that number. -/
def Value.numericType : Value → Value
  | .text b =>
    match readNumber? b with
    | some p => p.value
    | none => .text b
  | v => v

/-- 2^52: integers at least this large join a real sum in two parts. -/
def largeInteger : Int := 4503599627370496

/-- The running state of a sum: the number of values, the exact integer sum
while there is one, and else the real sum with its compensation term. -/
structure SumState where
  count : Nat := 0
  exact : Int := 0
  approximate : Bool := false
  overflow : Bool := false
  sum : Float := 0
  compensation : Float := 0

namespace SumState

/-- Adds a real with compensated summation. -/
def addReal (s : SumState) (r : Float) : SumState :=
  let t := s.sum + r
  let e := if s.sum.abs > r.abs then (s.sum - t) + r else (r - t) + s.sum
  { s with sum := t, compensation := s.compensation + e }

/-- Adds an integer to the real sum, a large one in two parts that are exact reals. -/
def addInteger (s : SumState) (n : Int) : SumState :=
  if n ≤ -largeInteger || n ≥ largeInteger then
    let small := n.tmod 16384
    (s.addReal (Float.ofInt (n - small))).addReal (Float.ofInt small)
  else s.addReal (Float.ofInt n)

/-- Turns the exact sum into a real one. -/
def toReal (s : SumState) : SumState :=
  if s.exact ≤ -largeInteger || s.exact ≥ largeInteger then
    let small := s.exact.tmod 16384
    { s with approximate := true, sum := Float.ofInt (s.exact - small),
             compensation := Float.ofInt small }
  else { s with approximate := true, sum := Float.ofInt s.exact, compensation := 0 }

/-- Adds a value; nulls are skipped. -/
def add (s : SumState) (v : Value) : SumState :=
  match v.numericType with
  | .null => s
  | n =>
    let s := { s with count := s.count + 1 }
    match s.approximate, n with
    | false, .integer i =>
      if fitsInt64 (s.exact + i) then { s with exact := s.exact + i }
      else { s with overflow := true }.toReal.addInteger i
    | false, _ => s.toReal.addReal n.toReal
    | true, .integer i => s.addInteger i
    | true, _ => { s with overflow := false }.addReal n.toReal

/-- The real sum with its compensation, unless the compensation is not finite. -/
def realTotal (s : SumState) : Float :=
  if s.compensation.isNaN || s.compensation.isInf then s.sum else s.sum + s.compensation

/-- The result of `sum`. -/
def sumValue (s : SumState) : Except SqlError Value :=
  if s.count == 0 then .ok .null
  else if !s.approximate then .ok (.integer s.exact)
  else if s.overflow then .error .integerOverflow
  else
    let c := s.compensation * 1.5
    .ok (realResult (if c.isNaN || c.isInf then s.sum else s.sum + s.compensation))

/-- The result of `total`. -/
def totalValue (s : SumState) : Value :=
  realResult (if s.approximate then s.realTotal else Float.ofInt s.exact)

/-- The result of `avg`. -/
def averageValue (s : SumState) : Value :=
  if s.count == 0 then .null
  else realResult ((if s.approximate then s.realTotal else Float.ofInt s.exact) / Float.ofNat s.count)

end SumState

/-- The values once each, in the order they first come, equal under a collation. -/
def distinctValues (coll : Collation) (vs : List Value) : List Value :=
  vs.foldl (fun acc v => if acc.any (·.compareWith coll v == .eq) then acc else acc ++ [v]) []

/-- The greatest (or, with `greatest` false, the least) of values that are not
null; the first of equal ones. -/
def extremeValue (coll : Collation) (greatest : Bool) (vs : List Value) : Value :=
  vs.foldl (fun best v =>
    if v.isNull then best
    else if best.isNull then v
    else
      let o := best.compareWith coll v
      if (greatest && o == .lt) || (!greatest && o == .gt) then v else best) .null

/-- The texts of values that are not null joined, each after the first preceded
by the separator of its row. -/
def concatValues (rows : List (Value × List UInt8)) : Value :=
  match rows.filter (fun (v, _) => !v.isNull) with
  | [] => .null
  | (v, _) :: rest =>
    .text ((v.textBytes.getD []) ++ rest.flatMap fun (w, sep) => sep ++ (w.textBytes.getD []))

/-- The value of an aggregate function over the argument values of the rows of
a group. -/
def aggregateValue (name : String) (distinct : Bool) (coll : Collation) (rows : List (List Value)) :
    Except SqlError Value := do
  let firsts := rows.map (·.headD .null)
  let values := if distinct then distinctValues coll (firsts.filter (!·.isNull)) else firsts
  match name.toLower with
  | "count" =>
    match rows with
    | [] :: _ => pure (.integer rows.length)
    | [] => pure (.integer 0)
    | _ => pure (.integer (values.filter (!·.isNull)).length)
  | "sum" => (values.foldl SumState.add {}).sumValue
  | "total" => pure (values.foldl SumState.add {}).totalValue
  | "avg" => pure (values.foldl SumState.add {}).averageValue
  | "min" => pure (extremeValue coll false values)
  | "max" => pure (extremeValue coll true values)
  | _ =>
    if distinct then pure (concatValues (values.map fun v => (v, ",".toUTF8.toList)))
    else
      pure (concatValues (rows.map fun r =>
        (r.headD .null, match r with
          | [_] => ",".toUTF8.toList
          | _ => ((r.getD 1 .null).textBytes).getD [])))

mutual

/-- The expression with each aggregate call replaced by its value over the rows
of a group. -/
def Expr.reduceAggregates (scope : Scope) (frames : List Frame) : Expr → Except SqlError Expr
  | .literal v => .ok (.literal v)
  | .column q n o => .ok (.column q n o)
  | .unary op e => do pure (.unary op (← e.reduceAggregates scope frames))
  | .binary op a b => do
    pure (.binary op (← a.reduceAggregates scope frames) (← b.reduceAggregates scope frames))
  | .isNull e negated => do pure (.isNull (← e.reduceAggregates scope frames) negated)
  | .cast e t => do pure (.cast (← e.reduceAggregates scope frames) t)
  | .call n args star distinct o =>
    if callKind n args.length == .aggregate then do
      let rows ← frames.mapM fun f => Expr.evalList scope f args
      pure (.literal (← aggregateValue n distinct (argumentsCollation scope args) rows))
    else do pure (.call n (← Expr.reduceList scope frames args) star distinct o)
  | .between e lo hi negated => do
    pure (.between (← e.reduceAggregates scope frames) (← lo.reduceAggregates scope frames)
      (← hi.reduceAggregates scope frames) negated)
  | .inList e items negated => do
    pure (.inList (← e.reduceAggregates scope frames) (← Expr.reduceList scope frames items) negated)
  | .caseOf operand branches otherwise => do
    pure (.caseOf (← Expr.reduceOption scope frames operand) (← Expr.reduceBranches scope frames branches)
      (← Expr.reduceOption scope frames otherwise))
  | .collate e n => do pure (.collate (← e.reduceAggregates scope frames) n)
  | .window n args star partition order frame o => do
    pure (.window n (← Expr.reduceList scope frames args) star (← Expr.reduceList scope frames partition)
      (← Expr.reduceOrder scope frames order) frame o)
  | .subquery q => .ok (.subquery q)
  | .exists q => .ok (.exists q)
  | .inQuery e rows negated => do pure (.inQuery (← e.reduceAggregates scope frames) rows negated)
  | .found vs aff coll => .ok (.found vs aff coll)

/-- `Expr.reduceAggregates` on each expression of a list. -/
def Expr.reduceList (scope : Scope) (frames : List Frame) : List Expr → Except SqlError (List Expr)
  | [] => .ok []
  | e :: es => do pure ((← e.reduceAggregates scope frames) :: (← Expr.reduceList scope frames es))

/-- `Expr.reduceAggregates` on the terms of a window's order. -/
def Expr.reduceOrder (scope : Scope) (frames : List Frame) :
    List (Expr × Bool) → Except SqlError (List (Expr × Bool))
  | [] => .ok []
  | (e, d) :: es => do pure ((← e.reduceAggregates scope frames, d) :: (← Expr.reduceOrder scope frames es))

/-- `Expr.reduceAggregates` on an optional expression. -/
def Expr.reduceOption (scope : Scope) (frames : List Frame) : Option Expr → Except SqlError (Option Expr)
  | none => .ok none
  | some e => do pure (some (← e.reduceAggregates scope frames))

/-- `Expr.reduceAggregates` on the branches of a `CASE`. -/
def Expr.reduceBranches (scope : Scope) (frames : List Frame) :
    List (Expr × Expr) → Except SqlError (List (Expr × Expr))
  | [] => .ok []
  | (c, r) :: bs => do
    pure ((← c.reduceAggregates scope frames, ← r.reduceAggregates scope frames) ::
      (← Expr.reduceBranches scope frames bs))

end

mutual

/-- The aggregate calls of an expression, in the order they are written. -/
def Expr.aggregateCalls : Expr → List Expr
  | .literal _ | .column .. => []
  | .unary _ e | .isNull e _ | .cast e _ => e.aggregateCalls
  | .binary _ a b => a.aggregateCalls ++ b.aggregateCalls
  | .call n args star distinct o =>
    if callKind n args.length == .aggregate then [.call n args star distinct o]
    else Expr.aggregateCallsList args
  | .between e lo hi _ => e.aggregateCalls ++ lo.aggregateCalls ++ hi.aggregateCalls
  | .inList e items _ => e.aggregateCalls ++ Expr.aggregateCallsList items
  | .caseOf operand branches otherwise =>
    Expr.aggregateCallsOption operand ++ Expr.aggregateCallsBranches branches ++
      Expr.aggregateCallsOption otherwise
  | .collate e _ => e.aggregateCalls
  | .window _ args _ partition order _ _ =>
    Expr.aggregateCallsList args ++ Expr.aggregateCallsList partition ++ Expr.aggregateCallsOrder order
  | .subquery _ | .exists _ | .found .. => []
  | .inQuery e _ _ => e.aggregateCalls

/-- The aggregate calls of a list of expressions. -/
def Expr.aggregateCallsList : List Expr → List Expr
  | [] => []
  | e :: es => e.aggregateCalls ++ Expr.aggregateCallsList es

/-- The aggregate calls of the terms of a window's order. -/
def Expr.aggregateCallsOrder : List (Expr × Bool) → List Expr
  | [] => []
  | (e, _) :: es => e.aggregateCalls ++ Expr.aggregateCallsOrder es

/-- The aggregate calls of an optional expression. -/
def Expr.aggregateCallsOption : Option Expr → List Expr
  | none => []
  | some e => e.aggregateCalls

/-- The aggregate calls of the branches of a `CASE`. -/
def Expr.aggregateCallsBranches : List (Expr × Expr) → List Expr
  | [] => []
  | (c, r) :: bs => c.aggregateCalls ++ r.aggregateCalls ++ Expr.aggregateCallsBranches bs

end

/-- The current row of every source when a group has no rows: nulls throughout. -/
def Scope.nullFrame (scope : Scope) : Frame :=
  scope.map fun s => (List.replicate s.columns.length .null, none)

/-- The row of a group that columns outside aggregates are read from, given the
aggregate calls of the query in order. -/
def representative (scope : Scope) (calls : List Expr) (frames : List Frame) :
    Except SqlError Frame := do
  let extremes := calls.filterMap fun
    | .call n [arg] _ _ _ =>
      let lower := n.toLower
      if lower == "min" || lower == "max" then some (lower == "max", arg) else none
    | _ => none
  match extremes.getLast?, frames with
  | _, [] => pure scope.nullFrame
  | none, f :: _ => pure f
  | some (greatest, arg), f :: _ =>
    let step (acc : Value × Frame) (g : Frame) : Except SqlError (Value × Frame) := do
      let (best, chosen) := acc
      let v ← arg.eval scope g
      if v.isNull then pure (if best.isNull then (best, g) else (best, chosen))
      else if best.isNull then pure (v, g)
      else
        let o := best.compareWith ((arg.collationIn scope).getD .binary) v
        if (greatest && o == .lt) || (!greatest && o == .gt) then pure (v, g) else pure (best, chosen)
    pure (← frames.foldlM step (.null, f)).2

/-- Rows split into runs of equal keys, after a stable sort by the keys, each
key compared under its collation. -/
def groupByKeys {α : Type} (colls : List Collation) (rows : List (List Value × α)) : List (List α) :=
  let sorted := rows.mergeSort fun a b =>
    ((a.1.zip b.1).zip colls).foldr (fun ((x, y), c) rest => match x.compareWith c y with
      | .eq => rest
      | .lt => true
      | .gt => false) true
  let same (a b : List Value) : Bool :=
    ((a.zip b).zip colls).all fun ((x, y), c) => x.compareWith c y == .eq
  let runs := sorted.foldl (fun (acc : List (List Value × List α)) (k, r) =>
    match acc with
    | (k', rs) :: rest => if same k k' then (k', r :: rs) :: rest else (k, [r]) :: acc
    | [] => [(k, [r])]) []
  (runs.map fun (_, rs) => rs.reverse).reverse

end Timeline.Sql
