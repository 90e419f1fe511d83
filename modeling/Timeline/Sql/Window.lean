import Timeline.Sql.Aggregate
/-!
# Functions over windows

A call `f(...) OVER (PARTITION BY p ORDER BY o frame)` is computed for each row
of a query from the rows of its *partition* (the rows with equal `p` values),
taken in the window's order (`o`, stably). Rows with equal `o` values are
*peers*.

* `row_number`, `rank`, `dense_rank`, `percent_rank`, `cume_dist` and
  `ntile` count positions and peer groups within the partition;
* `lag` and `lead` read a row some places before or after in the partition;
* `first_value`, `last_value`, `nth_value` and the aggregate functions read the
  rows of the *frame*: by default from the first row of the partition to the
  last peer of the current row; `ROWS` frames count rows, `GROUPS` frames
  count peer groups, and `RANGE` frames measure the distance of the single
  sort value.

`windowPass` computes the calls that share a window, for every row.
-/

namespace Timeline.Sql

/-- How a sort term orders its values: descending or not, texts under a
collation, and nulls first or last. -/
structure TermOrder where
  descending : Bool
  collation : Collation
  nullsFirst : Bool

/-- The order of a term written ascending or descending: nulls are the
smallest values, first when ascending and last when descending. -/
def TermOrder.plain (descending : Bool) (collation : Collation) : TermOrder :=
  ⟨descending, collation, !descending⟩

/-- Compares two values under a term's order. -/
def TermOrder.compare (t : TermOrder) (a b : Value) : Ordering :=
  match a, b with
  | .null, .null => .eq
  | .null, _ => if t.nullsFirst then .lt else .gt
  | _, .null => if t.nullsFirst then .gt else .lt
  | _, _ =>
    let o := a.compareWith t.collation b
    if t.descending then o.swap else o

/-- Compares two lists of sort values term by term. -/
def compareTerms : List TermOrder → List Value → List Value → Ordering
  | t :: ts, a :: as, b :: bs =>
    match t.compare a b with
    | .eq => compareTerms ts as bs
    | o => o
  | _, _, _ => .eq

/-- Splits a list into runs of neighbours that are equal by `same`. -/
def runsBy {α : Type} (same : α → α → Bool) : List α → List (List α)
  | [] => []
  | x :: rest =>
    match runsBy same rest with
    | (y :: ys) :: runs => if same x y then (x :: y :: ys) :: runs else [x] :: (y :: ys) :: runs
    | _ => [[x]]

/-- The first and last positions of the peer group of each position, and the
number of the group, for a partition whose rows have the given order values. -/
structure PeerGroups where
  first : Array Nat
  last : Array Nat
  group : Array Nat
  /-- The first and last position of each group, by number. -/
  bounds : Array (Nat × Nat)

/-- The peer groups of a partition, from its rows' order values. -/
def peerGroups (terms : List TermOrder) (values : List (List Value)) : PeerGroups :=
  let indexed := values.zipIdx
  let runs := runsBy (fun a b => compareTerms terms a.1 b.1 == .eq) indexed
  let bounds := runs.map fun r => ((r.head?.map (·.2)).getD 0, (r.getLast?.map (·.2)).getD 0)
  let perRow := (runs.zipIdx.flatMap fun (r, g) =>
    let (s, e) := ((r.head?.map (·.2)).getD 0, (r.getLast?.map (·.2)).getD 0)
    r.map fun _ => (s, e, g))
  { first := (perRow.map (·.1)).toArray, last := (perRow.map (·.2.1)).toArray,
    group := (perRow.map (·.2.2)).toArray, bounds := bounds.toArray }

/-- The positions of the frame of the row at `k` in a partition of `m` rows,
first and last inclusive, or none when the frame is empty. `sortValue` is the
single order value of each row, for `RANGE` frames with a distance. -/
def frameRange (frame : WindowFrame) (descending : Bool) (peers : PeerGroups)
    (sortValue : Array Value) (m k : Nat) : Option (Nat × Nat) :=
  let g := peers.group.getD k 0
  let groupCount := peers.bounds.size
  let groupFirst (i : Int) : Int :=
    if i < 0 then 0 else if i ≥ groupCount then m else (peers.bounds.getD i.toNat (0, 0)).1
  let groupLast (i : Int) : Int :=
    if i < 0 then -1 else if i ≥ groupCount then (m : Int) - 1 else (peers.bounds.getD i.toNat (0, 0)).2
  let v := sortValue.getD k .null
  let numeric (w : Value) : Option Float := match w with
    | .integer n => some (Float.ofInt n)
    | .real x => some x
    | _ => none
  -- the positions whose value lies within a distance below (or above) the current one
  let within (low : Bool) (n : Nat) : Int × Int :=
    match numeric v with
    | none => (peers.first.getD k 0, peers.last.getD k 0)
    | some x =>
      let bound := if low != descending then x - Float.ofNat n else x + Float.ofNat n
      let ok (j : Nat) : Bool := match numeric (sortValue.getD j .null) with
        | some y => if low != descending then (if descending then y ≤ bound else y ≥ bound)
          else (if descending then y ≥ bound else y ≤ bound)
        | none => false
      let js := (List.range m).filter ok
      ((js.head?.map Int.ofNat).getD m, (js.getLast?.map Int.ofNat).getD (-1))
  let start : Int := match frame.start, frame.unit with
    | .unboundedPreceding, _ => 0
    | .preceding n, .rows => (k : Int) - n
    | .preceding n, .groups => groupFirst ((g : Int) - n)
    | .preceding n, .range => (within true n).1
    | .currentRow, .rows => k
    | .currentRow, _ => peers.first.getD k 0
    | .following n, .rows => (k : Int) + n
    | .following n, .groups => groupFirst ((g : Int) + n)
    | .following n, .range => (within false n).1
    | .unboundedFollowing, _ => m
  let finish : Int := match frame.finish, frame.unit with
    | .unboundedPreceding, _ => -1
    | .preceding n, .rows => (k : Int) - n
    | .preceding n, .groups => groupLast ((g : Int) - n)
    | .preceding n, .range => (within true n).2
    | .currentRow, .rows => k
    | .currentRow, _ => peers.last.getD k 0
    | .following n, .rows => (k : Int) + n
    | .following n, .groups => groupLast ((g : Int) + n)
    | .following n, .range => (within false n).2
    | .unboundedFollowing, _ => (m : Int) - 1
  let s := max start 0
  let e := min finish ((m : Int) - 1)
  if s > e then none else some (s.toNat, e.toNat)

/-- The bucket of `ntile(n)` for the row at `k` of a partition of `m` rows: the
first `m % n` buckets take one row more than the others. -/
def ntileBucket (n m k : Nat) : Nat :=
  let size := m / n
  let extra := m % n
  if size == 0 then k + 1
  else if k < extra * (size + 1) then k / (size + 1) + 1
  else (k - extra * (size + 1)) / size + extra + 1

/-- A call of a function over a window, numbered among the calls of its query. -/
structure WindowCall where
  index : Nat
  name : String
  args : List Expr
  star : Bool
  frame : WindowFrame

/-- The value of a window call for the row at `k` of a partition (its rows in
window order), given the frame of that row; `eval` reads an expression at a
row. -/
def windowValueAt {α : Type} (scope : Scope) (eval : α → Expr → Except SqlError Value)
    (call : WindowCall) (part : Array α) (peers : PeerGroups) (k : Nat)
    (range : Option (Nat × Nat)) : Except SqlError Value := do
  let m := part.size
  let argAt (i : Nat) (x : α) : Except SqlError Value :=
    match call.args[i]? with
    | some e => eval x e
    | none => pure .null
  let at? (j : Nat) : Option α := part[j]?
  let first := peers.first.getD k 0
  let last := peers.last.getD k 0
  let excluded (j : Nat) : Bool := match call.frame.exclude with
    | .noOthers => false
    | .currentRow => j == k
    | .group => first ≤ j && j ≤ last
    | .ties => j != k && first ≤ j && j ≤ last
  let frameRows : List α := match range with
    | some (s, e) => ((List.range (e + 1 - s)).map (s + ·)).filter (!excluded ·) |>.filterMap (part[·]?)
    | none => []
  match at? k with
  | none => pure .null
  | some row =>
  match call.name.toLower with
  | "row_number" => pure (.integer (k + 1))
  | "rank" => pure (.integer (peers.first.getD k 0 + 1))
  | "dense_rank" => pure (.integer (peers.group.getD k 0 + 1))
  | "percent_rank" =>
    pure (.real (if m ≤ 1 then 0 else Float.ofNat (peers.first.getD k 0) / Float.ofNat (m - 1)))
  | "cume_dist" => pure (.real (Float.ofNat (peers.last.getD k 0 + 1) / Float.ofNat m))
  | "ntile" =>
    match (← argAt 0 row).cast .integer with
    | .integer n =>
      if n ≤ 0 then throw (.unsupported "argument of ntile must be a positive integer")
      else pure (.integer (ntileBucket n.toNat m k))
    | _ => throw (.unsupported "argument of ntile must be a positive integer")
  | "lag" | "lead" =>
    let offset ← if call.args.length ≥ 2 then do
        match (← argAt 1 row).cast .integer with
        | .integer n => pure n
        | _ => pure 0
      else pure 1
    let target : Int := if call.name.toLower == "lag" then (k : Int) - offset else (k : Int) + offset
    match (if 0 ≤ target then at? target.toNat else none) with
    | some other => argAt 0 other
    | none => if call.args.length ≥ 3 then argAt 2 row else pure .null
  | "first_value" =>
    match frameRows.head? with
    | some x => argAt 0 x
    | none => pure .null
  | "last_value" =>
    match frameRows.getLast? with
    | some x => argAt 0 x
    | none => pure .null
  | "nth_value" =>
    match (← argAt 1 row).cast .integer with
    | .integer n =>
      if n ≤ 0 then throw (.unsupported "second argument to nth_value must be a positive integer")
      else
        match frameRows[n.toNat - 1]? with
        | some x => argAt 0 x
        | none => pure .null
    | _ => throw (.unsupported "second argument to nth_value must be a positive integer")
  | _ =>
    -- an aggregate over the rows of the frame
    let rows ← if call.star then pure (frameRows.map fun _ => [])
      else frameRows.mapM fun x => call.args.mapM (eval x)
    aggregateValue call.name false (argumentsCollation scope call.args) rows

/-- Computes the calls that share one window's partition and order: gives the
rows in window order (partitions in the order of their values, rows within one
stably by the window's order), each with the values of the calls added by
number. -/
def windowPass {α : Type} (scope : Scope) (eval : α → Expr → Except SqlError Value)
    (partition : List Expr) (order : List (Expr × Bool)) (calls : List WindowCall)
    (rows : List (α × List (Nat × Value))) : Except SqlError (List (α × List (Nat × Value))) := do
  let partTerms := partition.map fun e => TermOrder.plain false ((e.collationIn scope).getD .binary)
  let orderTerms := order.map fun (e, d) => TermOrder.plain d ((e.collationIn scope).getD .binary)
  let keyed ← rows.mapM fun r => do
    pure ((← partition.mapM (eval r.1)), (← order.mapM fun (e, _) => eval r.1 e), r)
  let sorted := keyed.mergeSort fun a b =>
    match compareTerms partTerms a.1 b.1 with
    | .lt => true
    | .gt => false
    | .eq => compareTerms orderTerms a.2.1 b.2.1 != .gt
  let parts := runsBy (fun a b => compareTerms partTerms a.1 b.1 == .eq) sorted
  let descending := (order.head?.map (·.2)).getD false
  let results ← parts.mapM fun part => do
    let peers := peerGroups orderTerms (part.map (·.2.1))
    let members := (part.map (·.2.2.1)).toArray
    let sortValues := (part.map fun r => r.2.1.headD .null).toArray
    let m := part.length
    part.zipIdx.mapM fun (r, k) => do
      let values ← calls.mapM fun c => do
        let range := frameRange c.frame descending peers sortValues m k
        pure (c.index, ← windowValueAt scope eval c members peers k range)
      pure (r.2.2.1, r.2.2.2 ++ values)
  pure results.flatten

end Timeline.Sql
