import Timeline.Sql.Database
import Timeline.Sql.Functions
/-!
# Evaluating expressions

An expression is evaluated against the current row of each source of a query.
Names are checked before any row is read (`Expr.check`): a column that no
source has, a column that two sources have, a function that does not exist or
gets the wrong number of arguments are errors even for a query without rows.

* Arithmetic reads texts and blobs by their numeric prefix; two integers give
  an integer unless the result leaves the 64-bit range, when the operation is
  done on reals. Division and remainder by zero give null, as does a real
  result that is not a number.
* A comparison first converts operands by affinity: when either side is a
  column of numeric affinity, texts that read as numbers become numbers; when
  one side is a column of text affinity and the other no column, numbers
  become text. Null compares to nothing: the result is null.
* `AND`, `OR` and `NOT` follow three-valued logic.
-/

namespace Timeline.Sql

/-- A source of rows as an expression sees it. -/
structure SourceShape where
  name : String
  columns : List (String × Affinity)
  /-- Whether its rows have row ids. -/
  hasRowid : Bool
  /-- The column that is the row id, if one is. -/
  rowidColumn : Option Nat
  /-- The collation of each column; missing ones are `BINARY`. -/
  collations : List Collation := []
  /-- How the source is joined to those before it. -/
  join : JoinKind := .inner
  /-- The columns it shares with an earlier source by `USING` or `NATURAL`. -/
  usingColumns : List String := []

/-- The sources of a query, in order. -/
abbrev Scope := List SourceShape

/-- Where a column's value comes from: a cell of a source, a source's row id,
or the first of two that is not null (a column a `FULL JOIN` shares). -/
inductive CellRef where
  | cell (source column : Nat)
  | rowid (source : Nat)
  | firstOf (a b : CellRef)

/-- A column resolved: where its value is, its affinity, its declared name and
its collation. -/
structure ResolvedColumn where
  ref : CellRef
  affinity : Affinity
  name : String
  collation : Collation := .binary

/-- Whether a name is one of the names of the row id. -/
def isRowidName (n : String) : Bool :=
  sameName n "rowid" || sameName n "oid" || sameName n "_rowid_"

/-- The row id of a source as a column. -/
def SourceShape.rowidRef (s : SourceShape) (i : Nat) (written : String) : Option ResolvedColumn :=
  if s.hasRowid then
    some { ref := .rowid i, affinity := .integer,
           name := match s.rowidColumn.bind (s.columns[·]?) with
             | some (n, _) => n
             | none => written }
  else none

/-- Finds a column by name in one source. -/
def SourceShape.find? (s : SourceShape) (i : Nat) (name : String) : Option ResolvedColumn :=
  match s.columns.findIdx? (sameName ·.1 name) with
  | some j =>
    match s.columns[j]? with
    | some (n, aff) => some ⟨.cell i j, aff, n, s.collations.getD j .binary⟩
    | none => none
  | none => if isRowidName name then s.rowidRef i name else none

/-- Resolves a column reference against the sources. -/
def Scope.resolve (scope : Scope) (qualifier : Option String) (name : String) (offset : Nat) :
    Except SqlError ResolvedColumn :=
  let indexed := scope.zipIdx
  match qualifier with
  | some q =>
    match indexed.find? (sameName ·.1.name q) with
    | some (s, i) =>
      match s.find? i name with
      | some r => .ok r
      | none => .error (.noSuchColumn (q ++ "." ++ name) offset)
    | none => .error (.noSuchColumn (q ++ "." ++ name) offset)
  | none =>
    let direct := indexed.foldl (fun (acc : Option (List ResolvedColumn)) (s, i) =>
      match acc, (s.columns.findIdx? (sameName ·.1 name)).bind fun _ => s.find? i name with
      | acc, none => acc
      | none, some r => some [r]
      | some found, some r =>
        if found.length == 1 && s.usingColumns.any (sameName · name) then
          -- a column shared by `USING`: the left one, the right one, or the first not null
          match s.join, found with
          | .inner, _ | .left, _ => some found
          | .right, _ => some [r]
          | .full, [l] => some [{ l with ref := .firstOf l.ref r.ref }]
          | .full, _ => some (found ++ [r])
        else some (found ++ [r])) none
    match direct.getD [] with
    | [r] => .ok r
    | _ :: _ :: _ => .error (.ambiguousColumn name offset)
    | [] =>
      if isRowidName name then
        match indexed.filterMap (fun (s, i) => s.rowidRef i name) with
        | [r] => .ok r
        | _ :: _ :: _ => .error (.ambiguousColumn name offset)
        | [] => .error (.noSuchColumn name offset)
      else .error (.noSuchColumn name offset)

/-- The current row of every source: its values and row id. -/
abbrev Frame := List (List Value × Option Int)

/-- The value a cell reference points at in a frame. -/
def Frame.get (f : Frame) : CellRef → Value
  | .cell s c => ((f[s]?.map (·.1)).bind (·[c]?)).getD .null
  | .rowid s => match f[s]? with
    | some (_, some id) => .integer id
    | _ => .null
  | .firstOf a b => match f.get a with
    | .null => f.get b
    | v => v

/-! ## Functions -/

/-! ## Operators -/

/-- A real result, null when it is not a number. -/
def realResult (x : Float) : Value := if x.isNaN then .null else .real x

/-- An integer result, or the same operation on reals when it leaves 64 bits. -/
def integerResult (n : Int) (onReals : Unit → Float) : Value :=
  if fitsInt64 n then .integer n else realResult (onReals ())

/-- The signed 64-bit value of an integer, wrapping. -/
def wrap64 (n : Int) : Int :=
  let m := n % 18446744073709551616
  if m > int64Max then m - 18446744073709551616 else m

/-- An arithmetic or bit operator applied to two values. -/
def arithmetic (op : BinaryOp) (a b : Value) : Value :=
  match a, b with
  | .null, _ | _, .null => .null
  | _, _ =>
    match op with
    | .bitAnd | .bitOr | .shiftLeft | .shiftRight =>
      let x := a.toInteger
      let y := b.toInteger
      match op with
      | .bitAnd => .integer (Int64.ofInt x &&& Int64.ofInt y).toInt
      | .bitOr => .integer (Int64.ofInt x ||| Int64.ofInt y).toInt
      | .shiftLeft =>
        if y ≥ 64 then .integer 0 else if y ≥ 0 then .integer (wrap64 (x * Int.pow 2 y.toNat))
        else if y ≤ -64 then .integer (if x < 0 then -1 else 0) else .integer (x / Int.pow 2 (-y).toNat)
      | _ =>
        if y ≥ 64 then .integer (if x < 0 then -1 else 0) else if y ≥ 0 then .integer (x / Int.pow 2 y.toNat)
        else if y ≤ -64 then .integer 0 else .integer (wrap64 (x * Int.pow 2 (-y).toNat))
    | _ =>
      match a.toNumeric, b.toNumeric with
      | .integer x, .integer y =>
        match op with
        | .add => integerResult (x + y) fun _ => Float.ofInt x + Float.ofInt y
        | .sub => integerResult (x - y) fun _ => Float.ofInt x - Float.ofInt y
        | .mul => integerResult (x * y) fun _ => Float.ofInt x * Float.ofInt y
        | .div =>
          if y == 0 then .null
          else if x == int64Min && y == -1 then realResult (Float.ofInt x / -1)
          else .integer (x.tdiv y)
        | _ =>
          if y == 0 then .null else .integer (x.tmod (if y == -1 then 1 else y))
      | x, y =>
        let (u, v) := (x.toReal, y.toReal)
        match op with
        | .add => realResult (u + v)
        | .sub => realResult (u - v)
        | .mul => realResult (u * v)
        | .div => if v == 0 then .null else realResult (u / v)
        | _ =>
          let (i, j) := (x.toInteger, y.toInteger)
          if j == 0 then .null else realResult (Float.ofInt (i.tmod (if j == -1 then 1 else j)))

/-- The affinity under which two operands are compared. -/
def comparisonAffinity : Option Affinity → Option Affinity → Option Affinity
  | some x, some y => if x.isNumeric || y.isNumeric then some .numeric else none
  | some x, none | none, some x => some x
  | none, none => none

/-- A value converted for a comparison under an affinity. -/
def Value.forComparison (aff : Option Affinity) (v : Value) : Value :=
  match aff, v with
  | some .text, .integer n => .ofString (integerText n)
  | some .text, .real x => .ofString (realText x)
  | some a, .text b => if a.isNumeric then (match readNumber? b with
      | some p => p.value
      | none => .text b) else .text b
  | _, v => v

/-- Compares two values under an affinity and a collation; null compares to
nothing. -/
def compareUnder (aff : Option Affinity) (coll : Collation) (a b : Value) : Option Ordering :=
  match a, b with
  | .null, _ | _, .null => none
  | _, _ => some ((a.forComparison aff).compareWith coll (b.forComparison aff))

/-- Whether an ordering satisfies a comparison operator. -/
def BinaryOp.holds (op : BinaryOp) (o : Ordering) : Bool :=
  match op with
  | .lt => o == .lt
  | .le => o != .gt
  | .gt => o == .gt
  | .ge => o != .lt
  | .eq | .is => o == .eq
  | _ => o != .eq

/-- Three-valued `AND`. -/
def andValues (a b : Option Bool) : Value :=
  match a, b with
  | some false, _ | _, some false => ofBool false
  | some true, some true => ofBool true
  | _, _ => .null

/-- Three-valued `OR`. -/
def orValues (a b : Option Bool) : Value :=
  match a, b with
  | some true, _ | _, some true => ofBool true
  | some false, some false => ofBool false
  | _, _ => .null

/-! ## Checking and evaluation -/

/-- The aggregate functions, by lower-case name, and the argument counts each takes. -/
def aggregateArity? (name : String) : Option (Nat → Bool) :=
  match name.toLower with
  | "count" => some (· ≤ 1)
  | "sum" | "total" | "avg" | "min" | "max" => some (· == 1)
  | "group_concat" => some fun n => n == 1 || n == 2
  | "string_agg" => some (· == 2)
  | _ => none

/-- What a call of a name with a number of arguments is. -/
inductive CallKind where
  | aggregate
  | scalar
  /-- A known function, but not with this number of arguments. -/
  | wrongCount
  | unknown
  deriving DecidableEq

/-- The functions that exist only over a window, by lower-case name, and the
argument counts each takes. -/
def windowArity? (name : String) : Option (Nat → Bool) :=
  match name.toLower with
  | "row_number" | "rank" | "dense_rank" | "percent_rank" | "cume_dist" => some (· == 0)
  | "ntile" | "first_value" | "last_value" => some (· == 1)
  | "nth_value" => some (· == 2)
  | "lag" | "lead" => some fun n => 1 ≤ n && n ≤ 3
  | _ => none

/-- What a call is: an aggregate when an aggregate takes that many arguments
(so `min(x)` is one and `min(x, y)` is not), else a plain function. -/
def callKind (name : String) (count : Nat) : CallKind :=
  if (aggregateArity? name).any (· count) then .aggregate
  else if (functionArity? name).any (· count) then .scalar
  else if (aggregateArity? name).isSome || (functionArity? name).isSome then .wrongCount
  else .unknown

mutual

/-- Whether an expression calls an aggregate function. -/
def Expr.hasAggregate : Expr → Bool
  | .literal _ | .column .. => false
  | .unary _ e | .isNull e _ | .cast e _ => e.hasAggregate
  | .binary _ a b => a.hasAggregate || b.hasAggregate
  | .call n args _ _ _ => callKind n args.length == .aggregate || Expr.anyAggregate args
  | .between e lo hi _ => e.hasAggregate || lo.hasAggregate || hi.hasAggregate
  | .inList e items _ => e.hasAggregate || Expr.anyAggregate items
  | .caseOf operand branches otherwise =>
    Expr.optionAggregate operand || Expr.branchesAggregate branches || Expr.optionAggregate otherwise
  | .collate e _ => e.hasAggregate
  | .window .. | .subquery _ | .exists _ | .found .. => false
  | .inQuery e _ _ => e.hasAggregate

/-- Whether some expression of a list calls an aggregate function. -/
def Expr.anyAggregate : List Expr → Bool
  | [] => false
  | e :: es => e.hasAggregate || Expr.anyAggregate es

/-- Whether an optional expression calls an aggregate function. -/
def Expr.optionAggregate : Option Expr → Bool
  | none => false
  | some e => e.hasAggregate

/-- Whether some branch of a `CASE` calls an aggregate function. -/
def Expr.branchesAggregate : List (Expr × Expr) → Bool
  | [] => false
  | (c, r) :: bs => c.hasAggregate || r.hasAggregate || Expr.branchesAggregate bs

end

/-- What the names of an expression may refer to where it stands. -/
structure NameContext where
  /-- Whether aggregate functions may be called. -/
  aggregates : Bool := false
  /-- The named result columns, which a bare name that no source has stands for. -/
  aliases : List (String × Expr) := []
  /-- Whether functions over windows may be called. -/
  windows : Bool := false

/-- The named result column a bare name stands for, when no source has the name. -/
def NameContext.alias? (ctx : NameContext) (scope : Scope) (q : Option String) (n : String)
    (o : Nat) : Option (String × Expr) :=
  match q, scope.resolve q n o with
  | none, .error (.noSuchColumn _ _) => ctx.aliases.find? (sameName ·.1 n)
  | _, _ => none

mutual

/-- Checks the names of an expression. A column that no source has, or that
two have, stops the check at once; a function that is misused, unknown or
given the wrong number of arguments is reported when the whole expression has
been checked, the last such finding counting. The arguments of an aggregate may
not call aggregates. -/
def Expr.checkIn (scope : Scope) (ctx : NameContext) : Expr → Except SqlError (Option SqlError)
  | .literal _ | .subquery _ | .exists _ | .found .. => .ok none
  | .inQuery e _ _ => e.checkIn scope ctx
  | .column q n o =>
    match scope.resolve q n o with
    | .ok _ => .ok none
    | .error e =>
      match ctx.alias? scope q n o with
      | some (a, target) =>
        if target.hasAggregate && !ctx.aggregates then .error (.misuseAliasedAggregate a)
        else .ok none
      | none => .error e
  | .unary _ e | .isNull e _ | .cast e _ => e.checkIn scope ctx
  | .collate e n => do
    let x ← e.checkIn scope ctx
    match Collation.ofName? n with
    | some _ => pure x
    | none => .error (.noSuchCollation n)
  | .window n args _ partition order _ o => do
    let count := args.length
    let found : Option SqlError :=
      if (windowArity? n).any (· count) || (aggregateArity? n).any (· count) then
        if ctx.windows then none else some (.misuseWindow n o)
      else if (windowArity? n).isSome || (aggregateArity? n).isSome then some (.wrongArgumentCount n o)
      else if (functionArity? n).isSome then some (.notWindowFunction n o)
      else some (.noSuchFunction n o)
    let x ← Expr.checkListIn scope { ctx with windows := false } args
    let y ← Expr.checkListIn scope { ctx with windows := false } partition
    let z ← Expr.checkOrderIn scope { ctx with windows := false } order
    pure (z <|> y <|> x <|> found)
  | .binary _ a b => do
    let x ← a.checkIn scope ctx
    let y ← b.checkIn scope ctx
    pure (y <|> x)
  | .call n args _ _ o => do
    let kind := callKind n args.length
    let found : Option SqlError :=
      if (windowArity? n).isSome && kind == .unknown then some (.misuseWindow n o) else
      match kind with
      | .aggregate => if ctx.aggregates then none else some (.misuseAggregate n o)
      | .scalar =>
        match n.toLower, args with
        | "likelihood", [_, .literal (.real p)] =>
          if 0 ≤ p && p ≤ 1 then none else some (.badLikelihood n o)
        | "likelihood", _ => some (.badLikelihood n o)
        | _, _ => none
      | .wrongCount => some (.wrongArgumentCount n o)
      | .unknown => some (.noSuchFunction n o)
    let inner := if kind == .aggregate then { ctx with aggregates := false } else ctx
    let later ← Expr.checkListIn scope inner args
    pure (later <|> found)
  | .between e lo hi _ => do
    let x ← e.checkIn scope ctx
    let y ← lo.checkIn scope ctx
    let z ← hi.checkIn scope ctx
    pure (z <|> y <|> x)
  | .inList e items _ => do
    let x ← e.checkIn scope ctx
    let y ← Expr.checkListIn scope ctx items
    pure (y <|> x)
  | .caseOf operand branches otherwise => do
    let x ← Expr.checkOptionIn scope ctx operand
    let y ← Expr.checkBranchesIn scope ctx branches
    let z ← Expr.checkOptionIn scope ctx otherwise
    pure (z <|> y <|> x)

/-- Checks a list of expressions in order. -/
def Expr.checkListIn (scope : Scope) (ctx : NameContext) :
    List Expr → Except SqlError (Option SqlError)
  | [] => .ok none
  | e :: es => do
    let x ← e.checkIn scope ctx
    let y ← Expr.checkListIn scope ctx es
    pure (y <|> x)

/-- Checks the terms of a window's order. -/
def Expr.checkOrderIn (scope : Scope) (ctx : NameContext) :
    List (Expr × Bool) → Except SqlError (Option SqlError)
  | [] => .ok none
  | (e, _) :: es => do
    let x ← e.checkIn scope ctx
    let y ← Expr.checkOrderIn scope ctx es
    pure (y <|> x)

/-- Checks an optional expression. -/
def Expr.checkOptionIn (scope : Scope) (ctx : NameContext) :
    Option Expr → Except SqlError (Option SqlError)
  | none => .ok none
  | some e => e.checkIn scope ctx

/-- Checks the branches of a `CASE`. -/
def Expr.checkBranchesIn (scope : Scope) (ctx : NameContext) :
    List (Expr × Expr) → Except SqlError (Option SqlError)
  | [] => .ok none
  | (c, r) :: bs => do
    let x ← c.checkIn scope ctx
    let y ← r.checkIn scope ctx
    let z ← Expr.checkBranchesIn scope ctx bs
    pure (z <|> y <|> x)

end

/-- Checks an expression where it stands, failing with what the check found. -/
def Expr.checkAt (scope : Scope) (ctx : NameContext) (e : Expr) : Except SqlError Unit := do
  match ← e.checkIn scope ctx with
  | some err => .error err
  | none => .ok ()

/-- Checks that every name of an expression resolves, where no aggregate may be
called and no result column be named. -/
def Expr.check (scope : Scope) (e : Expr) : Except SqlError Unit :=
  e.checkAt scope {}

/-- Checks expressions one after the other. -/
def Expr.checkList (scope : Scope) (es : List Expr) : Except SqlError Unit :=
  es.forM (Expr.check scope)

mutual

/-- The expression with each bare name that no source has replaced by the
result column it names. -/
def Expr.substitute (scope : Scope) (ctx : NameContext) : Expr → Expr
  | .literal v => .literal v
  | .column q n o =>
    match ctx.alias? scope q n o with
    | some (_, target) => target
    | none => .column q n o
  | .unary op e => .unary op (e.substitute scope ctx)
  | .binary op a b => .binary op (a.substitute scope ctx) (b.substitute scope ctx)
  | .isNull e negated => .isNull (e.substitute scope ctx) negated
  | .cast e t => .cast (e.substitute scope ctx) t
  | .call n args star distinct o => .call n (Expr.substituteList scope ctx args) star distinct o
  | .between e lo hi negated =>
    .between (e.substitute scope ctx) (lo.substitute scope ctx) (hi.substitute scope ctx) negated
  | .inList e items negated => .inList (e.substitute scope ctx) (Expr.substituteList scope ctx items) negated
  | .caseOf operand branches otherwise =>
    .caseOf (Expr.substituteOption scope ctx operand) (Expr.substituteBranches scope ctx branches)
      (Expr.substituteOption scope ctx otherwise)
  | .collate e n => .collate (e.substitute scope ctx) n
  | .window n args star partition order frame o =>
    .window n (Expr.substituteList scope ctx args) star (Expr.substituteList scope ctx partition)
      (Expr.substituteOrder scope ctx order) frame o
  | .subquery q => .subquery q
  | .exists q => .exists q
  | .inQuery e rows negated => .inQuery (e.substitute scope ctx) rows negated
  | .found vs aff coll => .found vs aff coll

/-- `Expr.substitute` on each expression of a list. -/
def Expr.substituteList (scope : Scope) (ctx : NameContext) : List Expr → List Expr
  | [] => []
  | e :: es => e.substitute scope ctx :: Expr.substituteList scope ctx es

/-- `Expr.substitute` on the terms of a window's order. -/
def Expr.substituteOrder (scope : Scope) (ctx : NameContext) : List (Expr × Bool) → List (Expr × Bool)
  | [] => []
  | (e, d) :: es => (e.substitute scope ctx, d) :: Expr.substituteOrder scope ctx es

/-- `Expr.substitute` on an optional expression. -/
def Expr.substituteOption (scope : Scope) (ctx : NameContext) : Option Expr → Option Expr
  | none => none
  | some e => some (e.substitute scope ctx)

/-- `Expr.substitute` on the branches of a `CASE`. -/
def Expr.substituteBranches (scope : Scope) (ctx : NameContext) :
    List (Expr × Expr) → List (Expr × Expr)
  | [] => []
  | (c, r) :: bs => (c.substitute scope ctx, r.substitute scope ctx) :: Expr.substituteBranches scope ctx bs

end

/-- The affinity of an expression: a column's, a cast's type's, that of values
a query gave, or none; a collation does not change it. -/
def Expr.affinity (scope : Scope) : Expr → Option Affinity
  | .column q n o => match scope.resolve q n o with
    | .ok r => some r.affinity
    | .error _ => none
  | .cast _ t => some (Affinity.ofDeclared (some t))
  | .collate e _ => e.affinity scope
  | .found _ aff _ => aff
  | _ => none

mutual

/-- The collation an expression names with `COLLATE`, found through its
operands: the left operand before the right ones, in the order written. -/
def Expr.explicitCollation : Expr → Option String
  | .literal _ | .column .. => none
  | .collate _ n => some n
  | .unary _ e | .isNull e _ | .cast e _ => e.explicitCollation
  | .binary _ a b => a.explicitCollation <|> b.explicitCollation
  | .call _ args _ _ _ => Expr.explicitCollationList args
  | .between e lo hi _ => e.explicitCollation <|> lo.explicitCollation <|> hi.explicitCollation
  | .inList e items _ => e.explicitCollation <|> Expr.explicitCollationList items
  | .caseOf operand branches otherwise =>
    Expr.explicitCollationOption operand <|> Expr.explicitCollationBranches branches <|>
      Expr.explicitCollationOption otherwise
  | .window _ args _ _ _ _ _ => Expr.explicitCollationList args
  | .subquery _ | .exists _ | .found .. => none
  | .inQuery e _ _ => e.explicitCollation

/-- The first collation named in a list of expressions. -/
def Expr.explicitCollationList : List Expr → Option String
  | [] => none
  | e :: es => e.explicitCollation <|> Expr.explicitCollationList es

/-- The collation named in an optional expression. -/
def Expr.explicitCollationOption : Option Expr → Option String
  | none => none
  | some e => e.explicitCollation

/-- The first collation named in the branches of a `CASE`. -/
def Expr.explicitCollationBranches : List (Expr × Expr) → Option String
  | [] => none
  | (c, r) :: bs => c.explicitCollation <|> r.explicitCollation <|> Expr.explicitCollationBranches bs

end

/-- The collation of an expression: the one it names, else a column's own or
that of values a query gave, seen through casts and a prefix `+`; none for
other expressions. -/
def Expr.collationIn (scope : Scope) : Expr → Option Collation
  | .column q n o => (scope.resolve q n o).toOption.map (·.collation)
  | .found _ _ c => c
  | .cast e _ => e.collationIn scope
  | .unary .plus e => e.collationIn scope
  | e => e.explicitCollation.bind Collation.ofName?

/-- The collation a comparison of two operands uses: one the left operand
names, else one the right names, else the left's own, else the right's, else
`BINARY`. -/
def binaryCollation (scope : Scope) (a b : Expr) : Collation :=
  let chosen :=
    if a.explicitCollation.isSome then a.collationIn scope
    else if b.explicitCollation.isSome then b.collationIn scope
    else a.collationIn scope <|> b.collationIn scope
  chosen.getD .binary

/-- The collation a function that compares its arguments uses: that of the
first argument that has one. -/
def argumentsCollation (scope : Scope) (args : List Expr) : Collation :=
  (args.findSome? (·.collationIn scope)).getD .binary

/-- The value of `IN` from the comparisons of the value with each item: true
when one finds it equal; null when the value is null and there are items, or
when no comparison finds it equal and one is unknown; false otherwise. `NOT IN`
negates it. -/
def memberValue (v : Value) (outcomes : List (Option Ordering)) (negated : Bool) : Value :=
  let r : Value :=
    match v with
    | .null => if outcomes.isEmpty then ofBool false else .null
    | _ =>
      if outcomes.any (· == some .eq) then ofBool true
      else if outcomes.any (· == none) then .null
      else ofBool false
  if negated then (match r.truth? with | some b => ofBool !b | none => .null) else r

mutual

/-- The value of an expression at a frame. -/
def Expr.eval (scope : Scope) (frame : Frame) : Expr → Except SqlError Value
  | .literal v => .ok v
  | .column q n o => match scope.resolve q n o with
    | .ok r => .ok (frame.get r.ref)
    | .error e => .error e
  | .unary op e => do
    let v ← e.eval scope frame
    pure <| match op, v with
      | _, .null => .null
      | .plus, v => v
      | .not, v => match v.truth? with
        | some b => ofBool !b
        | none => .null
      | .bitNot, v => .integer (wrap64 (-v.toInteger - 1))
      | .negate, v => match v.toNumeric with
        | .integer n => if n == int64Min then .real 9223372036854775808.0 else .integer (-n)
        | .real x => .real (-x)
        | other => other
  | .binary op a b => do
    let x ← a.eval scope frame
    match op with
    | .and =>
      if x.truth? == some false then pure (ofBool false)
      else pure (andValues x.truth? (← b.eval scope frame).truth?)
    | .or =>
      if x.truth? == some true then pure (ofBool true)
      else pure (orValues x.truth? (← b.eval scope frame).truth?)
    | _ =>
      let y ← b.eval scope frame
      match op with
      | .lt | .le | .gt | .ge | .eq | .ne =>
        pure <| match compareUnder (comparisonAffinity (a.affinity scope) (b.affinity scope))
            (binaryCollation scope a b) x y with
          | some o => ofBool (op.holds o)
          | none => .null
      | .is | .isNot =>
        let same := match x, y with
          | .null, .null => true
          | .null, _ | _, .null => false
          | _, _ => compareUnder (comparisonAffinity (a.affinity scope) (b.affinity scope))
              (binaryCollation scope a b) x y == some .eq
        pure (ofBool (if op == .is then same else !same))
      | .concat =>
        pure <| match x.textBytes, y.textBytes with
          | some p, some q => .text (p ++ q)
          | _, _ => .null
      | _ => pure (arithmetic op x y)
  | .isNull e negated => do
    let v ← e.eval scope frame
    let isNull := match v with | .null => true | _ => false
    pure (ofBool (if negated then !isNull else isNull))
  | .cast e t => do
    pure ((← e.eval scope frame).cast (Affinity.ofDeclared (some t)))
  | .call n args _ _ o =>
    let lower := n.toLower
    if lower == "coalesce" || lower == "ifnull" then Expr.firstNotNull scope frame args
    else if lower == "iif" || lower == "if" then Expr.evalChoice scope frame args
    else if lower == "likely" || lower == "unlikely" || lower == "likelihood" then
      Expr.firstValue scope frame args
    else do
      let vs ← Expr.evalList scope frame args
      (applyFunction n (argumentsCollation scope args) vs).mapError fun
        | .noSuchFunction n _ => .noSuchFunction n o
        | e => e
  | .between e lo hi negated => do
    let v ← e.eval scope frame
    let l ← lo.eval scope frame
    let h ← hi.eval scope frame
    let a1 := comparisonAffinity (e.affinity scope) (lo.affinity scope)
    let a2 := comparisonAffinity (e.affinity scope) (hi.affinity scope)
    let lower := (compareUnder a1 (binaryCollation scope e lo) v l).map (· != .lt)
    let upper := (compareUnder a2 (binaryCollation scope e hi) v h).map (· != .gt)
    let r := andValues lower upper
    pure <| if negated then (match r.truth? with | some b => ofBool !b | none => .null) else r
  | .inList e items negated => do
    let v ← e.eval scope frame
    let vs ← Expr.evalList scope frame items
    let affs := items.map fun i => comparisonAffinity (e.affinity scope) (i.affinity scope)
    let coll := (e.collationIn scope).getD .binary
    pure (memberValue v ((vs.zip affs).map fun (w, aff) => compareUnder aff coll v w) negated)
  | .inQuery e rows negated => do
    match rows with
    | .found vs aff coll =>
      let v ← e.eval scope frame
      let aff := comparisonAffinity (e.affinity scope) aff
      let coll := ((e.collationIn scope) <|> coll).getD .binary
      pure (memberValue v (vs.map (compareUnder aff coll v ·)) negated)
    | _ => .error (.unsupported "a query within an expression that has not run")
  | .found vs _ _ => .ok (vs.head?.getD .null)
  | .subquery _ | .exists _ => .error (.unsupported "a query within an expression that has not run")
  | .caseOf operand branches otherwise => do
    let subject ← match operand with
      | some o => some <$> o.eval scope frame
      | none => pure none
    match ← Expr.evalBranches scope frame subject operand branches with
    | some v => pure v
    | none => match otherwise with
      | some e => e.eval scope frame
      | none => pure .null
  | .collate e _ => e.eval scope frame
  | .window n _ _ _ _ _ o => .error (.misuseWindow n o)

/-- The first value of a list of expressions that is not null, the later ones
not evaluated; null when there is none. -/
def Expr.firstNotNull (scope : Scope) (frame : Frame) : List Expr → Except SqlError Value
  | [] => .ok .null
  | e :: es => do
    match ← e.eval scope frame with
    | .null => Expr.firstNotNull scope frame es
    | v => pure v

/-- The value of the first of a list of expressions, null when there is none. -/
def Expr.firstValue (scope : Scope) (frame : Frame) : List Expr → Except SqlError Value
  | [] => .ok .null
  | e :: _ => e.eval scope frame

/-- The value `iif` chooses: conditions and values in pairs, the value after
the first condition that holds, else the last expression when the count is
odd, else null. Only what is needed is evaluated. -/
def Expr.evalChoice (scope : Scope) (frame : Frame) : List Expr → Except SqlError Value
  | [] => .ok .null
  | [e] => e.eval scope frame
  | c :: v :: rest => do
    if (← c.eval scope frame).truth? == some true then v.eval scope frame
    else Expr.evalChoice scope frame rest

/-- The values of a list of expressions. -/
def Expr.evalList (scope : Scope) (frame : Frame) : List Expr → Except SqlError (List Value)
  | [] => .ok []
  | e :: es => do pure ((← e.eval scope frame) :: (← Expr.evalList scope frame es))

/-- The result of the first `CASE` branch that applies, if one does. -/
def Expr.evalBranches (scope : Scope) (frame : Frame) (subject : Option Value) (operand : Option Expr) :
    List (Expr × Expr) → Except SqlError (Option Value)
  | [] => .ok none
  | (c, r) :: bs => do
    let w ← c.eval scope frame
    let applies : Bool := match subject with
      | some s =>
        let aff := comparisonAffinity ((operand.bind (·.affinity scope))) (c.affinity scope)
        let coll := match operand with
          | some o => binaryCollation scope o c
          | none => .binary
        compareUnder aff coll s w == some .eq
      | none => w.truth? == some true
    if applies then some <$> r.eval scope frame
    else Expr.evalBranches scope frame subject operand bs

end

end Timeline.Sql
