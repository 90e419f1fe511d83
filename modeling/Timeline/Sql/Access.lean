import Timeline.Sql.Window
/-!
# How a query reads its table

A query of one table reads it in one of three orders, and the order shows in
the rows of a query that does not sort them:

* through an index that a condition of `WHERE` narrows (an equality, `IN`,
  `IS NULL` or a bound on its first columns), in the order of the index;
* else through an index that holds every column the query reads, when its
  entries are estimated narrower than the table's rows, in the order of the
  index;
* else in row-id order.

The widths are the engine's estimates: a column counts 1 unless its declared
type gives it text or no affinity, when it counts 5, or the size written in
the type divided by 4, plus 1; a table counts its columns and one more for its
row id when no column is the row id, an index its columns and the row id. The
widths are compared on a logarithmic scale (`logEst`, ten times the base-2
logarithm, rounded down in steps the engine uses).

Among indexes that conditions narrow, the one expected to give the fewest rows
is taken: each column fixed by an equality divides the rows (by ten for the
first column, then a little less), a unique index fixed on all its columns
gives one row, `IN` multiplies by the number of its items, and each bound
divides by four. An index that holds every column read is preferred on a tie,
and among the rest the newest index.
-/

namespace Timeline.Sql

/-- The engine's logarithmic estimate of a count: about ten times its base-2
logarithm. -/
def logEst (x : Nat) : Int :=
  let steps : Array Int := #[0, 2, 3, 5, 6, 7, 8, 9]
  if x < 2 then 0
  else if x < 8 then
    let k : Nat := if x < 4 then 2 else 1
    steps.getD ((x * Nat.pow 2 k) % 8) 0 + (40 - 10 * (k : Int)) - 10
  else
    let i := Nat.log2 x - 3
    steps.getD ((x >>> i) % 8) 0 + 30 + 10 * (i : Int)

/-- The text after the last `CHAR` in a declared type, or after `BLOB` when a
parenthesis follows it and no earlier word set the affinity, where a size may
be written; none when there is none. -/
def sizeText (declared : List Char) : Option (List Char) :=
  go [] .numeric none declared
where
  /-- Reads the type through a window of its last four letters. -/
  go (window : List Char) (aff : Affinity) (found : Option (List Char)) : List Char → Option (List Char)
    | [] => found
    | c :: rest =>
      let window := (window ++ [c.toLower]).drop (if window.length ≥ 4 then 1 else 0)
      if window == ['c', 'h', 'a', 'r'] then go window .text (some rest) rest
      else if window == ['c', 'l', 'o', 'b'] || window == ['t', 'e', 'x', 't'] then go window .text found rest
      else if window == ['b', 'l', 'o', 'b'] && (aff == .numeric || aff == .real) then
        go window .blob (if rest.head? == some '(' then some rest else found) rest
      else go window aff found rest

/-- The first number written in a text, if it fits in 31 bits. -/
def firstNumber (text : List Char) : Option Nat :=
  let digits := (text.dropWhile (!·.isDigit)).takeWhile Char.isDigit
  let n := digits.foldl (fun n c => n * 10 + (c.toNat - 48)) 0
  if digits.isEmpty || digits.length > 10 || n > 2147483647 then none else some n

/-- The estimated width of a column of a declared type. -/
def columnWidth : Option String → Nat
  | none => 1
  | some declared =>
    if (Affinity.ofDeclared (some declared)).isNumeric then 1
    else
      let size := match sizeText declared.toList with
        | some rest => (firstNumber rest).getD 0
        | none => 16
      min (size / 4 + 1) 255

/-- The estimated width of a table's rows, on the logarithmic scale. -/
def Table.width (t : Table) : Int :=
  let columns := (t.columns.map (columnWidth ·.declaredType)).foldr (· + ·) 0
  logEst (4 * (columns + if t.rowidColumn.isNone then 1 else 0))

/-- The estimated width of an index's entries, on the logarithmic scale. -/
def Table.indexWidth (t : Table) (key : List Nat) : Int :=
  let columns := (key.map fun i => (t.columns[i]?.map (columnWidth ·.declaredType)).getD 1).foldr (· + ·) 0
  logEst (4 * (columns + 1))

mutual

/-- Whether every column reference of an expression passes a test; the
queries within it are not looked into. -/
def Expr.everyColumn (p : Option String → String → Nat → Bool) : Expr → Bool
  | .literal _ => true
  | .column q n o => p q n o
  | .unary _ e | .isNull e _ | .cast e _ | .collate e _ => e.everyColumn p
  | .binary _ a b => a.everyColumn p && b.everyColumn p
  | .call _ args _ _ _ => Expr.everyColumnList p args
  | .between e lo hi _ => e.everyColumn p && lo.everyColumn p && hi.everyColumn p
  | .inList e items _ => e.everyColumn p && Expr.everyColumnList p items
  | .caseOf operand branches otherwise =>
    Expr.everyColumnOption p operand && Expr.everyColumnBranches p branches && Expr.everyColumnOption p otherwise
  | .window _ args _ partition order _ _ =>
    Expr.everyColumnList p args && Expr.everyColumnList p partition && Expr.everyColumnOrder p order
  | .subquery _ | .exists _ | .found .. => true
  | .inQuery e _ _ => e.everyColumn p

/-- Whether every column reference of a list of expressions passes a test. -/
def Expr.everyColumnList (p : Option String → String → Nat → Bool) : List Expr → Bool
  | [] => true
  | e :: es => e.everyColumn p && Expr.everyColumnList p es

/-- Whether every column reference of a window's order passes a test. -/
def Expr.everyColumnOrder (p : Option String → String → Nat → Bool) : List (Expr × Bool) → Bool
  | [] => true
  | (e, _) :: es => e.everyColumn p && Expr.everyColumnOrder p es

/-- Whether every column reference of an optional expression passes a test. -/
def Expr.everyColumnOption (p : Option String → String → Nat → Bool) : Option Expr → Bool
  | none => true
  | some e => e.everyColumn p

/-- Whether every column reference of the branches of a `CASE` passes a test. -/
def Expr.everyColumnBranches (p : Option String → String → Nat → Bool) : List (Expr × Expr) → Bool
  | [] => true
  | (c, r) :: bs => c.everyColumn p && r.everyColumn p && Expr.everyColumnBranches p bs

end

/-- The conditions an expression requires all of: its operands under `AND`. -/
def Expr.conjuncts : Expr → List Expr
  | .binary .and a b => a.conjuncts ++ b.conjuncts
  | e => [e]

/-- What a condition tells about a column of the table: an equality (with the
number of values `IN` allows), or a bound. -/
inductive Constraint where
  | equal (count : Nat)
  | bound
  deriving DecidableEq

/-- The expression under any `COLLATE` written around it. -/
def Expr.withoutCollate : Expr → Expr
  | .collate e _ => e.withoutCollate
  | e => e

/-- The column of the one table an expression is, if it is one. -/
def columnOf (scope : Scope) (e : Expr) : Option Nat :=
  match e.withoutCollate with
  | .column q n o => match scope.resolve q n o with
    | .ok r => match r.ref with
      | .cell 0 j => some j
      | _ => none
    | .error _ => none
  | _ => none

/-- Whether an index of a column may serve a comparison of the column with a
value: the comparison's collation is the column's, and its affinity leaves
the column's values as stored. -/
def comparisonFits (scope : Scope) (column value : Expr) (j : Nat) : Bool :=
  let colAff := (column.affinity scope).getD .blob
  let aff := comparisonAffinity (column.affinity scope) (value.affinity scope)
  let affOk := match aff with
    | none | some .blob => true
    | some .text => colAff == .text
    | some _ => colAff.isNumeric
  let coll := binaryCollation scope column value
  let own := ((scope.head?.map (·.collations)).getD []).getD j .binary
  affOk && coll == own

/-- The constraints the conditions of `WHERE` put on columns of the table: a
condition that compares a column with a value that reads no column. -/
def constraintsOf (scope : Scope) (filter : Option Expr) : List (Nat × Constraint) :=
  let constant (e : Expr) : Bool := e.everyColumn fun _ _ _ => false
  (filter.map Expr.conjuncts).getD [] |>.flatMap fun c =>
    match c with
    | .binary op a b =>
      let sides := [(a, b, op), (b, a, op)]
      sides.flatMap fun (x, y, op) =>
        match columnOf scope x with
        | some j =>
          if !constant y || !comparisonFits scope x y j then []
          else match op with
            | .eq | .is => [(j, .equal 1)]
            | .lt | .le | .gt | .ge => [(j, .bound)]
            | _ => []
        | none => []
    | .between x lo hi false =>
      match columnOf scope x with
      | some j =>
        if constant lo && constant hi && comparisonFits scope x lo j && comparisonFits scope x hi j then
          [(j, .bound), (j, .bound)]
        else []
      | none => []
    | .inList x items false =>
      match columnOf scope x with
      | some j => if items.all constant then [(j, .equal items.length)] else []
      | none => []
    | .isNull x false =>
      match columnOf scope x with
      | some j => [(j, .equal 1)]
      | none => []
    | _ => []

/-- The estimated number of rows, on the logarithmic scale, an index gives
under the constraints, if they narrow it at all. -/
def indexEstimate (key : List Nat) (unique : Bool) (constraints : List (Nat × Constraint)) : Option Int :=
  let equalOn (j : Nat) : Option Nat :=
    constraints.findSome? fun (k, c) => match c with
      | .equal n => if k == j then some n else none
      | .bound => none
  let fixed := key.takeWhile fun j => (equalOn j).isSome
  let bounds := match key[fixed.length]? with
    | some j => (constraints.filter fun (k, c) => k == j && c == .bound).length
    | none => 0
  if fixed.isEmpty && bounds == 0 then none
  else
    let steps : List Int := [33, 32, 30, 28, 26]
    let base : Int :=
      if fixed.isEmpty then 200
      else if unique && fixed.length == key.length then 0
      else steps.getD (fixed.length - 1) 23
    let spread := (fixed.map fun j => logEst ((equalOn j).getD 1)).foldr (· + ·) 0
    some (base + spread - 20 * (min bounds 2 : Nat))

/-- The index a query of one table reads it through, if any: its columns by
position. `used` are the expressions the query reads the table with, and
`indexes` the table's indexes, each with its unique mark, oldest first. -/
def chooseIndex (t : Table) (scope : Scope) (used : List Expr) (filter : Option Expr)
    (indexes : List (List Nat × Bool)) : Option (List Nat) :=
  let reads (key : List Nat) : Bool :=
    used.all fun e => e.everyColumn fun q n o =>
      match scope.resolve q n o with
      | .ok r => match r.ref with
        | .cell 0 j => key.contains j || t.rowidColumn == some j
        | _ => true
      | .error _ => true
  let constraints := constraintsOf scope filter
  let onRowid := constraints.any fun (j, _) => t.rowidColumn == some j
  let newestFirst := indexes.reverse
  let narrowed := newestFirst.filterMap fun (key, unique) =>
    (indexEstimate key unique constraints).map fun est => (key, est, reads key)
  let better (a b : List Nat × Int × Bool) : Bool :=
    a.2.1 < b.2.1 || (a.2.1 == b.2.1 && a.2.2 && !b.2.2)
  if onRowid then none
  else
    match narrowed.foldl (fun best c => match best with
        | none => some c
        | some b => if better c b then some c else some b) none with
    | some (key, _, _) => some key
    | none =>
      let covering := newestFirst.filter fun (key, _) => reads key && t.indexWidth key < t.width
      match covering.foldl (fun (best : Option (List Nat)) (key, _) => match best with
          | none => some key
          | some b => if t.indexWidth key < t.indexWidth b then some key else some b) none with
      | some key => some key
      | none => none

/-- Rows of a table in the order of an index on some of its columns: by those
columns under their collations, then by row id. -/
def orderByIndex (t : Table) (key : List Nat) (rows : List (List Value × Option Int)) :
    List (List Value × Option Int) :=
  let terms := key.map fun j => TermOrder.plain false ((t.columns[j]?.map (·.collation)).getD .binary)
  rows.mergeSort fun a b =>
    match compareTerms terms (key.map (a.1.getD · .null)) (key.map (b.1.getD · .null)) with
    | .lt => true
    | .gt => false
    | .eq => (a.2.getD 0) ≤ (b.2.getD 0)

end Timeline.Sql
