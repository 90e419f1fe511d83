import Timeline.Sql.Token
import Timeline.Sql.Syntax
import Timeline.Sql.Error
import Timeline.Sql.NamedWindow
/-!
# Reading statements

A recursive-descent reader over the tokens of a statement text. The first
token that cannot continue a statement is reported (`near "…": syntax error`),
and running out of tokens where more are needed is `incomplete input`.

Operators bind, from loosest to tightest: `OR`; `AND`; prefix `NOT`; the
equalities, `IS`, `IN`, `LIKE`, `GLOB`, `BETWEEN` and the null tests; the
orderings; the bit operators; `+` and `-`; `*`, `/` and `%`; `||`; and the
prefix `-`, `+` and `~`. Operators of one level group to the left.

Nesting is charged to a budget of steps that the number of tokens bounds, so
the reader is a total function.
-/

namespace Timeline.Sql

/-- The tokens still to read, the end of the last one read, and the text. -/
structure Cursor where
  tokens : List Token
  lastStop : Nat
  source : List UInt8
  /-- An error found in a literal, reported once the statement has been read
  to its end without a syntax error. -/
  pending : Option SqlError := none

/-- A reader of statements. -/
abbrev Parser := StateT Cursor (Except SqlError)

/-- Words that never name a column or table. -/
def reservedWords : List String :=
  ["ADD", "ALL", "ALTER", "AND", "AS", "AUTOINCREMENT", "BETWEEN", "CASE", "CHECK", "COLLATE",
    "COMMIT", "CONSTRAINT", "CREATE", "CROSS", "DEFAULT", "DEFERRABLE", "DELETE", "DISTINCT", "DROP",
    "ELSE", "ESCAPE", "EXCEPT", "EXISTS", "FOREIGN", "FROM", "FULL", "GROUP", "HAVING", "IN", "INDEX",
    "INNER", "INSERT", "INTERSECT", "INTO", "IS", "ISNULL", "JOIN", "LEFT", "LIMIT", "NATURAL", "NOT",
    "NOTNULL", "NULL", "ON", "OR", "ORDER", "OUTER", "PRIMARY", "REFERENCES", "RETURNING", "RIGHT",
    "ROLLBACK", "SELECT", "SET", "TABLE", "THEN", "TO", "TRANSACTION", "UNION", "UNIQUE", "UPDATE",
    "USING", "VALUES", "WHEN", "WHERE"]

/-- A word in capitals, ASCII letters only changed. -/
def upperAscii (s : String) : String := s.map Char.toUpper

/-- Whether a token is the keyword `k` (given in capitals). -/
def Token.isKeyword (t : Token) (k : String) : Bool :=
  match t.kind with
  | .word w => upperAscii w == k
  | _ => false

/-- Whether a token is the operator or mark `s`. -/
def Token.isSymbol (t : Token) (s : String) : Bool :=
  match t.kind with
  | .symbol x => x == s
  | _ => false

/-- The error for a token that cannot come next, or for the end of the text. -/
def unexpected : Option Token → SqlError
  | some t =>
    match t.kind with
    | .illegal => .unrecognized t.text t.offset
    | _ => .unexpectedToken t.text t.offset
  | none => .incomplete

namespace Parser

/-- The next token, not read. -/
def peek : Parser (Option Token) := do
  pure (← get).tokens.head?

/-- The token after the next one, not read. -/
def peekSecond : Parser (Option Token) := do
  pure ((← get).tokens.drop 1).head?

/-- Reads the next token. -/
def advance : Parser Token := do
  let c ← get
  match c.tokens with
  | t :: rest => set { c with tokens := rest, lastStop := t.stop }; pure t
  | [] => throw .incomplete

/-- Fails at the next token. -/
def failHere : Parser α := do
  throw (unexpected (← peek))

/-- Reads the keyword `k` if it comes next. -/
def keyword? (k : String) : Parser Bool := do
  match ← peek with
  | some t => if t.isKeyword k then do let _ ← advance; pure true else pure false
  | none => pure false

/-- Reads the mark `s` if it comes next. -/
def symbol? (s : String) : Parser Bool := do
  match ← peek with
  | some t => if t.isSymbol s then do let _ ← advance; pure true else pure false
  | none => pure false

/-- Reads the keyword `k`, which must come next. -/
def expectKeyword (k : String) : Parser Unit := do
  unless ← keyword? k do failHere

/-- Reads the mark `s`, which must come next. -/
def expectSymbol (s : String) : Parser Unit := do
  unless ← symbol? s do failHere

/-- Whether the next token is the keyword `k`. -/
def atKeyword (k : String) : Parser Bool := do
  pure ((← peek).any (·.isKeyword k))

/-- Whether the next token is the mark `s`. -/
def atSymbol (s : String) : Parser Bool := do
  pure ((← peek).any (·.isSymbol s))

/-- The name a token can stand for: a word that is no reserved keyword, a quoted
identifier or a string. -/
def nameOf? (t : Token) : Option String :=
  match t.kind with
  | .word w => if reservedWords.contains (upperAscii w) then none else some w
  | .quoted n => some n
  | .string s => some s
  | _ => none

/-- Reads a name. -/
def name : Parser String := do
  match (← peek).bind nameOf? with
  | some n => let _ ← advance; pure n
  | none => failHere

/-- Reads a name and returns its token too. -/
def nameToken : Parser (String × Token) := do
  match ← peek with
  | some t =>
    match nameOf? t with
    | some n => let _ ← advance; pure (n, t)
    | none => failHere
  | none => failHere

/-- The text of the statement from a byte offset to the end of the last token read. -/
def textFrom (start : Nat) : Parser String := do
  let c ← get
  pure (String.fromUTF8! ⟨((c.source.drop start).take (c.lastStop - start)).toArray⟩)

/-- The offset of the next token, or of the end. -/
def nextOffset : Parser Nat := do
  match ← peek with
  | some t => pure t.offset
  | none => pure (← get).lastStop

/-- Reads a comma-separated list, each item by `item`, within a budget. -/
def commaList (item : Parser α) : Nat → Parser (List α)
  | 0 => throw .incomplete
  | fuel + 1 => do
    let x ← item
    if ← symbol? "," then pure (x :: (← commaList item fuel)) else pure [x]

/-- Reads a parenthesized list of names. -/
def nameList (fuel : Nat) : Parser (List String) := do
  expectSymbol "("
  let names ← commaList name fuel
  expectSymbol ")"
  pure names

/-- Reads a list of indexed columns: names, each with an optional collation and order. -/
def indexedColumns (fuel : Nat) : Parser (List String) := do
  expectSymbol "("
  let names ← commaList (do
    let n ← name
    if ← keyword? "COLLATE" then let _ ← name
    let _ ← keyword? "ASC" <||> keyword? "DESC"
    pure n) fuel
  expectSymbol ")"
  pure names

/-- The binary operator of a mark at one level of binding. -/
def levelOperator (level : Nat) (t : Token) : Option BinaryOp :=
  match level, t.kind with
  | 0, .word w => if upperAscii w == "OR" then some .or else none
  | 1, .word w => if upperAscii w == "AND" then some .and else none
  | 3, .symbol s =>
    if s == "=" || s == "==" then some .eq else if s == "!=" || s == "<>" then some .ne else none
  | 4, .symbol s =>
    if s == "<" then some .lt else if s == "<=" then some .le
    else if s == ">" then some .gt else if s == ">=" then some .ge else none
  | 5, .symbol s =>
    if s == "&" then some .bitAnd else if s == "|" then some .bitOr
    else if s == "<<" then some .shiftLeft else if s == ">>" then some .shiftRight else none
  | 6, .symbol s => if s == "+" then some .add else if s == "-" then some .sub else none
  | 7, .symbol s =>
    if s == "*" then some .mul else if s == "/" then some .div else if s == "%" then some .rem else none
  | 8, .symbol s => if s == "||" then some .concat else none
  | _, _ => none

/-- The real a run of decimal digits, maybe grouped by `_`, reads as. -/
def digitsReal (negative : Bool) (text : String) : Float :=
  readReal negative ((text.toList.filter (· != '_')).map fun c => c.toNat - 48) [] 0

/-- The value of an integer token, negated or not: a decimal integer out of the
64-bit range is a real; a hex integer of up to 64 bits is the signed integer
of its bits, and one beyond, or the least integer negated, is an error. -/
def integerLiteral (t : Token) (negative : Bool) : Except SqlError Value :=
  match t.kind with
  | .integer n =>
    if negative then
      if n ≤ 9223372036854775808 then .ok (.integer (-(n : Int))) else .ok (.real (digitsReal true t.text))
    else if (n : Int) ≤ int64Max then .ok (.integer n) else .ok (.real (digitsReal false t.text))
  | .hex n =>
    let signed : Int := if n ≥ 9223372036854775808 then (n : Int) - 18446744073709551616 else n
    if n ≥ 18446744073709551616 || (negative && signed == int64Min) then
      .error (.hexTooBig ((if negative then "-" else "") ++ t.text) t.offset)
    else .ok (.integer (if negative then -signed else signed))
  | _ => .error (unexpected (some t))

/-- The literal of a token, and the error its value gives, if any. -/
def literalOf? (t : Token) : Option (Value × Option SqlError) :=
  match t.kind with
  | .integer _ | .hex _ =>
    match integerLiteral t false with
    | .ok v => some (v, none)
    | .error e => some (.null, some e)
  | .real x => some (.real x, none)
  | .string s => some (.ofString s, none)
  | .blob b => some (.blob b, none)
  | .word w => if upperAscii w == "NULL" then some (.null, none) else none
  | _ => none

/-- The error of a number whose `_` is misplaced, quoting the text given. -/
def malformedNumberError (quoted : String) : SqlError :=
  .unsupported ("unrecognized token: \"" ++ quoted ++ "\"")

/-- Keeps the first error found in a literal. -/
def notePending : Option SqlError → Parser Unit
  | none => pure ()
  | some e => modify fun c => { c with pending := c.pending <|> some e }

/-- A number with an optional sign. -/
def signedNumber : Parser Value := do
  let negative ← symbol? "-"
  if !negative then let _ ← symbol? "+"
  let t ← advance
  match t.kind with
  | .integer _ | .hex _ =>
    match integerLiteral t negative with
    | .ok v => pure v
    | .error e => notePending (some e); pure .null
  | .real x => pure (.real (if negative then -x else x))
  | .malformedNumber quoted => throw (malformedNumberError quoted)
  | _ => throw (unexpected (some t))

/-- After a `-`: an integer literal, maybe within parentheses, which the minus
negates as a literal, so that `-9223372036854775808` is an integer. Nothing is
read when no such literal comes next. -/
def negatedInteger? : Parser (Option Expr) := do
  let c ← get
  let opens := (c.tokens.takeWhile (·.isSymbol "(")).length
  match c.tokens.drop opens with
  | t :: rest =>
    let closes := (rest.takeWhile (·.isSymbol ")")).length
    let isInteger := match t.kind with
      | .integer _ | .hex _ => true
      | _ => false
    if !isInteger || closes < opens then return none
    for _ in [0:2 * opens + 1] do
      let _ ← advance
    match integerLiteral t true with
    | .ok v => return some (.literal v)
    | .error e => notePending (some e); return some (.literal .null)
  | [] => return none


/-- The further words of a type name. -/
def typeWords : Nat → Parser Unit
  | 0 => pure ()
  | fuel + 1 => do
    match (← peek).bind nameOf? with
    | some _ =>
      match (← peek).map Token.kind with
      | some (TokenKind.string _) => pure ()
      | _ => let _ ← advance; typeWords fuel
    | none => pure ()

/-- A type name: words, then maybe one or two numbers in parentheses; its text
as written. -/
def typeName : Nat → Parser String
  | 0 => throw (.unsupported "type name too long")
  | fuel + 1 => do
    let start ← nextOffset
    let _ ← name
    typeWords fuel
    if ← symbol? "(" then
      let _ ← signedNumber
      if ← symbol? "," then let _ ← signedNumber
      expectSymbol ")"
    textFrom start

/-- `COLLATE` names after an operand, each applying to all before it. -/
def collateTail : Nat → Expr → Parser Expr
  | 0, e => pure e
  | fuel + 1, e => do
    if ← keyword? "COLLATE" then
      let n ← name
      collateTail fuel (.collate e n)
    else pure e

/-- A bound of a window frame. -/
def frameBound : Parser FrameBound := do
  if ← keyword? "UNBOUNDED" then
    if ← keyword? "PRECEDING" then return .unboundedPreceding
    expectKeyword "FOLLOWING"
    return .unboundedFollowing
  if ← keyword? "CURRENT" then
    expectKeyword "ROW"
    return .currentRow
  let t ← advance
  let n ← match t.kind with
    | .integer n => pure n
    | _ => throw (unexpected (some t))
  if ← keyword? "PRECEDING" then return .preceding n
  expectKeyword "FOLLOWING"
  return .following n

/-- The frame of a window, if one is given. -/
def windowFrame : Parser WindowFrame := do
  let unit ← if ← keyword? "ROWS" then pure FrameUnit.rows
    else if ← keyword? "RANGE" then pure .range
    else if ← keyword? "GROUPS" then pure .groups
    else return {}
  if ← keyword? "BETWEEN" then
    let start ← frameBound
    expectKeyword "AND"
    let finish ← frameBound
    return { unit, start, finish, exclude := ← exclusion, given := true }
  let start ← frameBound
  return { unit, start, finish := .currentRow, exclude := ← exclusion, given := true }
where
  exclusion : Parser FrameExclude := do
    if ← keyword? "EXCLUDE" then
      if ← keyword? "NO" then expectKeyword "OTHERS"; return .noOthers
      else if ← keyword? "CURRENT" then expectKeyword "ROW"; return .currentRow
      else if ← keyword? "GROUP" then return .group
      else expectKeyword "TIES"; return .ties
    return .noOthers

/-- The name of the window a window definition builds on, if one comes first. -/
def baseWindow? : Parser (Option String) := do
  match ← peek with
  | some t =>
    let clause := match t.kind with
      | .word w => ["PARTITION", "ORDER", "ROWS", "RANGE", "GROUPS"].contains (upperAscii w)
      | _ => false
    match nameOf? t with
    | some b => if clause then pure none else do let _ ← advance; pure (some b)
    | none => pure none
  | none => pure none

/-- The arguments of an aggregate call filtered by `FILTER (WHERE c)`: the
first argument becomes null where `c` does not hold (and `count(*)` counts a
value that is null there), so that the aggregate skips those rows. -/
def filteredArguments (c : Expr) (args : List Expr) (star : Bool) : List Expr :=
  match args, star with
  | a :: rest, false => .caseOf none [(c, a)] none :: rest
  | _, _ => [.caseOf none [(c, .literal (.integer 1))] none]

/-! ## Expressions and queries -/

/-- The three tokens from the next one on. -/
def peekThree : Parser (List Token) := do
  pure ((← get).tokens.take 3)

/-- Whether a query in parentheses comes next: `(` and then `SELECT`, `WITH`
or `VALUES`. -/
def queryAhead : Parser Bool := do
  let next ← peek
  let second ← peekSecond
  pure (next.any (·.isSymbol "(") && second.any fun t =>
    t.isKeyword "SELECT" || t.isKeyword "WITH" || t.isKeyword "VALUES")

/-- An optional alias, after `AS` or alone. `WINDOW` followed by a name and
`AS` starts the `WINDOW` clause instead. -/
def alias? : Parser (Option String) := do
  if ← keyword? "AS" then return some (← name)
  match ← peekThree with
  | [w, n, a] =>
    if w.isKeyword "WINDOW" && (nameOf? n).isSome && a.isKeyword "AS" then return none
  | _ => pure ()
  match (← peek).bind nameOf? with
  | some a => let _ ← advance; return some a
  | none => return none

/-- A table or view named as a source, maybe qualified by its schema, with an
optional alias. -/
def sourceName : Parser (Option String × String × Option String) := do
  let n ← name
  let (schema, n) ← if ← symbol? "." then do pure (some n, ← name) else pure (none, n)
  pure (schema, n, ← alias?)

/-- The join operator before a further source, if one comes next, and
whether it is `NATURAL`. -/
def joinOperator? : Parser (Option (JoinKind × Bool)) := do
  if ← symbol? "," then return some (.inner, false)
  let natural ← keyword? "NATURAL"
  let outer (kind : JoinKind) : Parser (Option (JoinKind × Bool)) := do
    let _ ← keyword? "OUTER"
    expectKeyword "JOIN"
    return some (kind, natural)
  if ← keyword? "LEFT" then return ← outer .left
  if ← keyword? "RIGHT" then return ← outer .right
  if ← keyword? "FULL" then return ← outer .full
  if (← keyword? "INNER") || (← keyword? "CROSS") then
    expectKeyword "JOIN"
    return some (.inner, natural)
  if ← keyword? "JOIN" then return some (.inner, natural)
  if natural then failHere
  return none

/-- The operator of a compound query, if one comes next. -/
def compoundOp? : Parser (Option CompoundOp) := do
  if ← keyword? "UNION" then
    if ← keyword? "ALL" then return some .unionAll
    return some .union
  if ← keyword? "INTERSECT" then return some .intersect
  if ← keyword? "EXCEPT" then return some .except
  return none

/-- The first query of a compound, before an operator, that sorts or limits its
own rows: the clause it has and the operator after it. -/
def misplacedClause : Select → List (CompoundOp × Select) → Option (String × CompoundOp)
  | _, [] => none
  | q, (op, next) :: rest =>
    match misplacedClause next rest with
    | some found => some found
    | none =>
      if !q.orderBy.isEmpty then some ("ORDER BY", op)
      else if q.limit.isSome then some ("LIMIT", op)
      else none

/-- The rows of `VALUES` as queries without sources joined by `UNION ALL`, the
first naming its columns `column1`, `column2` and so on. -/
def valuesQuery (rows : List (List Expr)) : Except SqlError Select :=
  let plain (items : List Expr) : Select :=
    { distinct := false, columns := items.map (.expr · none ""), sources := [], filter := none,
      orderBy := [], limit := none, offset := none }
  match rows with
  | [] => .error .incomplete
  | first :: rest =>
    if rest.any (·.length != first.length) then
      .error (.unsupported "all VALUES must have the same number of terms")
    else
      let named := first.zipIdx.map fun (e, i) => ResultColumn.expr e (some ("column" ++ toString (i + 1))) ""
      .ok { plain first with columns := named, compound := rest.map fun r => (.unionAll, plain r) }

/-- A query with sort terms and a limit given to its last part. -/
def withTail (q : Select) (orderBy : List OrderTerm) (limit offset : Option Expr) : Select :=
  match q.compound.getLast? with
  | none => { q with orderBy, limit, offset }
  | some (op, last) =>
    { q with compound := q.compound.dropLast ++ [(op, { last with orderBy, limit, offset })] }

mutual

/-- An expression at a level of binding (0 for the loosest). -/
def exprAt : Nat → Nat → Parser Expr
  | 0, _ => throw (.unsupported "expression nested too deeply")
  | fuel + 1, level =>
    if level == 2 then do
      if ← keyword? "NOT" then pure (.unary .not (← exprAt fuel 2)) else exprAt fuel 3
    else if level ≥ 9 then do collateTail fuel (← unaryExpr fuel)
    else do
      let lhs ← exprAt fuel (level + 1)
      tail fuel level lhs

/-- The operators of one level that follow an operand, grouped to the left. -/
def tail : Nat → Nat → Expr → Parser Expr
  | 0, _, _ => throw (.unsupported "expression nested too deeply")
  | fuel + 1, level, lhs => do
    let some t ← peek | pure lhs
    match levelOperator level t with
    | some op =>
      let _ ← advance
      let rhs ← exprAt fuel (level + 1)
      tail fuel level (.binary op lhs rhs)
    | none =>
      if level != 3 then pure lhs
      else
        match t.kind with
        | .word w =>
          let w := upperAscii w
          if w == "IS" then do
            let _ ← advance
            let negated ← keyword? "NOT"
            -- `IS NOT DISTINCT FROM` is `IS`, and `IS DISTINCT FROM` is `IS NOT`
            let distinct ← keyword? "DISTINCT"
            if distinct then expectKeyword "FROM"
            let rhs ← exprAt fuel 4
            let same := negated == distinct
            tail fuel level (.binary (if same then .is else .isNot) lhs rhs)
          else if w == "ISNULL" then do
            let _ ← advance; tail fuel level (.isNull lhs false)
          else if w == "NOTNULL" then do
            let _ ← advance; tail fuel level (.isNull lhs true)
          else if w == "NOT" then do
            let next ← peekSecond
            if next.any (·.isKeyword "NULL") then do
              let _ ← advance; let _ ← advance
              tail fuel level (.isNull lhs true)
            else if next.any (fun n => n.isKeyword "BETWEEN" || n.isKeyword "IN" ||
                n.isKeyword "LIKE" || n.isKeyword "GLOB") then do
              let _ ← advance
              let e ← suffixForm fuel lhs true
              tail fuel level e
            else pure lhs
          else if w == "BETWEEN" || w == "IN" || w == "LIKE" || w == "GLOB" then do
            let e ← suffixForm fuel lhs false
            tail fuel level e
          else pure lhs
        | _ => pure lhs

/-- `BETWEEN`, `IN`, `LIKE` or `GLOB` after an operand. -/
def suffixForm : Nat → Expr → Bool → Parser Expr
  | 0, _, _ => throw (.unsupported "expression nested too deeply")
  | fuel + 1, lhs, negated => do
    if ← keyword? "BETWEEN" then
      let lo ← exprAt fuel 4
      expectKeyword "AND"
      let hi ← exprAt fuel 4
      pure (.between lhs lo hi negated)
    else if ← keyword? "IN" then
      if ← queryAhead then
        let _ ← advance
        let q ← select fuel
        expectSymbol ")"
        return .inQuery lhs (.subquery q) negated
      expectSymbol "("
      if ← symbol? ")" then pure (.inList lhs [] negated)
      else
        let items ← exprList fuel
        expectSymbol ")"
        pure (.inList lhs items negated)
    else
      -- `x LIKE p ESCAPE e` is the call `like(p, x, e)`, and so for `GLOB`
      let op ← advance
      unless op.isKeyword "LIKE" || op.isKeyword "GLOB" do throw (unexpected (some op))
      let p ← exprAt fuel 4
      let escape ← if ← keyword? "ESCAPE" then (fun e => [e]) <$> exprAt fuel 4 else pure []
      let call := Expr.call op.text ([p, lhs] ++ escape) false false op.offset
      pure (if negated then .unary .not call else call)

/-- A prefix `-`, `+` or `~`, or a primary expression. -/
def unaryExpr : Nat → Parser Expr
  | 0 => throw (.unsupported "expression nested too deeply")
  | fuel + 1 => do
    if ← symbol? "-" then
      match ← negatedInteger? with
      | some e => pure e
      | none => pure (.unary .negate (← unaryExpr fuel))
    else if ← symbol? "+" then pure (.unary .plus (← unaryExpr fuel))
    else if ← symbol? "~" then pure (.unary .bitNot (← unaryExpr fuel))
    else primary fuel

/-- A literal, column, call, cast, case, parenthesized expression, query in
parentheses or `EXISTS`. -/
def primary : Nat → Parser Expr
  | 0 => throw (.unsupported "expression nested too deeply")
  | fuel + 1 => do
    let some t ← peek | throw .incomplete
    if let .malformedNumber quoted := t.kind then throw (malformedNumberError quoted)
    if let some (v, e) := literalOf? t then
      let _ ← advance
      notePending e
      return .literal v
    if ← queryAhead then
      let _ ← advance
      let q ← select fuel
      expectSymbol ")"
      return .subquery q
    if t.isSymbol "(" then
      let _ ← advance
      let e ← exprAt fuel 0
      expectSymbol ")"
      return e
    if t.isKeyword "EXISTS" && (← peekSecond).any (·.isSymbol "(") then
      let _ ← advance; let _ ← advance
      let q ← select fuel
      expectSymbol ")"
      return .exists q
    if t.isKeyword "CAST" && (← peekSecond).any (·.isSymbol "(") then
      let _ ← advance; let _ ← advance
      let e ← exprAt fuel 0
      expectKeyword "AS"
      let typeName ← typeName fuel
      expectSymbol ")"
      return .cast e typeName
    if t.isKeyword "CASE" then
      let _ ← advance
      let operand ← if ← atKeyword "WHEN" then pure none else some <$> exprAt fuel 0
      let branches ← whenList fuel
      let otherwise ← if ← keyword? "ELSE" then some <$> exprAt fuel 0 else pure none
      expectKeyword "END"
      return .caseOf operand branches otherwise
    match nameOf? t with
    | none => throw (unexpected (some t))
    | some n =>
      let _ ← advance
      if ← symbol? "(" then
        if ← symbol? "*" then
          expectSymbol ")"
          let args ← filterClause fuel [] true
          let star := args.isEmpty
          if ← keyword? "OVER" then return ← overClause fuel n args star t.offset
          return .call n args star false t.offset
        if ← symbol? ")" then
          let args ← filterClause fuel [] false
          if ← keyword? "OVER" then return ← overClause fuel n args false t.offset
          return .call n args false false t.offset
        let distinct ← keyword? "DISTINCT"
        if !distinct then let _ ← keyword? "ALL"
        let args ← exprList fuel
        expectSymbol ")"
        let args ← filterClause fuel args false
        if ← keyword? "OVER" then return ← overClause fuel n args false t.offset
        return .call n args false distinct t.offset
      if ← symbol? "." then
        let c ← name
        return .column (some n) c t.offset
      return .column none n t.offset

/-- A window definition in parentheses: maybe the name of a window it builds
on, then its partition, order and frame. -/
def windowDefinition : Nat → Parser WindowParts
  | 0 => throw (.unsupported "expression nested too deeply")
  | fuel + 1 => do
    expectSymbol "("
    let base ← baseWindow?
    let partition ← if ← keyword? "PARTITION" then do
        expectKeyword "BY"
        exprList fuel
      else pure []
    let order ← if ← keyword? "ORDER" then do
        expectKeyword "BY"
        windowOrder fuel
      else pure []
    let frame ← windowFrame
    expectSymbol ")"
    pure (partition, order, { frame with base })

/-- The window after `OVER`: a definition in parentheses, or the name of a
window of the query's `WINDOW` clause. -/
def overClause : Nat → String → List Expr → Bool → Nat → Parser Expr
  | 0, _, _, _, _ => throw (.unsupported "expression nested too deeply")
  | fuel + 1, n, args, star, offset => do
    if ← atSymbol "(" then
      let (partition, order, frame) ← windowDefinition fuel
      pure (.window n args star partition order frame offset)
    else
      let w ← name
      pure (.window n args star [] [] { base := some w, named := true } offset)

/-- The arguments of a call after an optional `FILTER (WHERE …)`. -/
def filterClause : Nat → List Expr → Bool → Parser (List Expr)
  | 0, _, _ => throw (.unsupported "expression nested too deeply")
  | fuel + 1, args, star => do
    if ← keyword? "FILTER" then
      expectSymbol "("
      expectKeyword "WHERE"
      let c ← exprAt fuel 0
      expectSymbol ")"
      pure (filteredArguments c args star)
    else pure args

/-- The sort terms of a window: expressions, each maybe descending. -/
def windowOrder : Nat → Parser (List (Expr × Bool))
  | 0 => throw (.unsupported "expression nested too deeply")
  | fuel + 1 => do
    let e ← exprAt fuel 0
    let descending ← keyword? "DESC"
    if !descending then let _ ← keyword? "ASC"
    if ← keyword? "NULLS" then
      unless (← keyword? "FIRST") || (← keyword? "LAST") do failHere
    if ← symbol? "," then pure ((e, descending) :: (← windowOrder fuel)) else pure [(e, descending)]

/-- The `WHEN … THEN …` branches of a `CASE`. -/
def whenList : Nat → Parser (List (Expr × Expr))
  | 0 => throw (.unsupported "expression nested too deeply")
  | fuel + 1 => do
    expectKeyword "WHEN"
    let c ← exprAt fuel 0
    expectKeyword "THEN"
    let r ← exprAt fuel 0
    if ← atKeyword "WHEN" then pure ((c, r) :: (← whenList fuel)) else pure [(c, r)]

/-- A comma-separated list of expressions. -/
def exprList : Nat → Parser (List Expr)
  | 0 => throw (.unsupported "expression nested too deeply")
  | fuel + 1 => do
    let e ← exprAt fuel 0
    if ← symbol? "," then pure (e :: (← exprList fuel)) else pure [e]

/-- A result column: `*`, `source.*`, or an expression with an optional alias. -/
def resultColumn : Nat → Parser ResultColumn
  | 0 => throw (.unsupported "expression nested too deeply")
  | fuel + 1 => do
    let some t ← peek | throw .incomplete
    if t.isSymbol "*" then
      let _ ← advance
      return .all
    match ← peekThree with
    | [a, b, c] =>
      if let some n := nameOf? a then
        if b.isSymbol "." && c.isSymbol "*" then
          let _ ← advance; let _ ← advance; let _ ← advance
          return .allOf n a.offset
    | _ => pure ()
    let e ← exprAt fuel 0
    let text ← textFrom t.offset
    if ← keyword? "AS" then
      return .expr e (some (← name)) text
    match (← peek).bind nameOf? with
    | some a => let _ ← advance; return .expr e (some a) text
    | none => return .expr e none text

/-- A source of a query, joined by `join`: a table or view by name, maybe
qualified by its schema, or a query in parentheses; with an optional alias. -/
def source : Nat → JoinKind → Parser SourceRef
  | 0, _ => throw (.unsupported "query nested too deeply")
  | fuel + 1, join => do
    if ← queryAhead then
      let _ ← advance
      let q ← select fuel
      expectSymbol ")"
      pure { name := "", label := ← alias?, join, constraint := none, query := some q }
    else
      let (schema, n, label) ← sourceName
      pure { name := n, label, join, constraint := none, schema }

/-- The sources after the first, each with its join. -/
def joinedSources : Nat → Parser (List SourceRef)
  | 0 => pure []
  | fuel + 1 => do
    match ← joinOperator? with
    | none => pure []
    | some (join, natural) =>
      let ref ← source fuel join
      let constraint ← if ← keyword? "ON" then some <$> Expr.forgetOffsets <$> exprAt fuel 0
        else pure none
      let usingColumns ← if constraint.isNone && (← keyword? "USING") then nameList fuel else pure []
      if natural && (constraint.isSome || !usingColumns.isEmpty) then
        throw (.unsupported "a NATURAL join may not have an ON or USING clause")
      pure ({ ref with constraint, usingColumns, natural } :: (← joinedSources fuel))

/-- An expression with the offset of its first number token, if it has one. -/
def termExpr : Nat → Parser (Expr × Nat)
  | 0 => throw (.unsupported "expression nested too deeply")
  | fuel + 1 => do
    let before := (← get).tokens
    let e ← exprAt fuel 0
    let after := (← get).tokens
    let read := before.take (before.length - after.length)
    let number := read.find? fun t => match t.kind with
      | .integer _ | .hex _ => true
      | _ => false
    pure (e, (number.map (·.offset)).getD 0)

/-- A term of `GROUP BY`. -/
def groupTerm : Nat → Parser OrderTerm
  | 0 => throw (.unsupported "expression nested too deeply")
  | fuel + 1 => do
    let (e, numberOffset) ← termExpr fuel
    pure { expr := e, numberOffset }

/-- A sort term of `ORDER BY`. -/
def orderTerm : Nat → Parser OrderTerm
  | 0 => throw (.unsupported "expression nested too deeply")
  | fuel + 1 => do
    let (e, numberOffset) ← termExpr fuel
    let descending ← keyword? "DESC"
    if !descending then let _ ← keyword? "ASC"
    let nullsFirst ← if ← keyword? "NULLS" then do
        if ← keyword? "FIRST" then pure (some true)
        else if ← keyword? "LAST" then pure (some false)
        else failHere
      else pure none
    pure { expr := e, descending, numberOffset, nullsFirst }

/-- The named windows of a `WINDOW` clause, each resolved against those before
it (`done`). -/
def windowClause : Nat → List (String × WindowParts) → Parser (List (String × WindowParts))
  | 0, _ => throw (.unsupported "query nested too deeply")
  | fuel + 1, done => do
    let n ← name
    expectKeyword "AS"
    let (partition, order, frame) ← windowDefinition fuel
    let parts ← match chainWindow done partition order frame with
      | .ok parts => pure parts
      | .error e => throw e
    let done := done ++ [(n, parts)]
    if ← symbol? "," then windowClause fuel done else pure done

/-- The rows of `VALUES`, each a parenthesized list of expressions. -/
def valueLists : Nat → Parser (List (List Expr))
  | 0 => throw (.unsupported "query nested too deeply")
  | fuel + 1 => do
    expectSymbol "("
    let items ← exprList fuel
    expectSymbol ")"
    if ← symbol? "," then pure (items :: (← valueLists fuel)) else pure [items]

/-- One query of a compound query, `SELECT` or `VALUES`, with its own sort
terms and limit. -/
def oneSelect : Nat → Parser Select
  | 0 => throw (.unsupported "query nested too deeply")
  | fuel + 1 => do
    let core ← if ← keyword? "VALUES" then do
        match valuesQuery (← valueLists fuel) with
        | .ok q => pure q
        | .error e => throw e
      else do
        expectKeyword "SELECT"
        let distinct ← keyword? "DISTINCT"
        if !distinct then let _ ← keyword? "ALL"
        let columns ← commaList (resultColumn fuel) fuel
        let sources ← if ← keyword? "FROM" then do
            pure ((← source fuel .inner) :: (← joinedSources fuel))
          else pure []
        let filter ← if ← keyword? "WHERE" then some <$> exprAt fuel 0 else pure none
        let groupBy ← if ← keyword? "GROUP" then do
            expectKeyword "BY"
            commaList (groupTerm fuel) fuel
          else pure []
        let having ← if ← keyword? "HAVING" then some <$> exprAt fuel 0 else pure none
        let windows ← if ← keyword? "WINDOW" then windowClause fuel [] else pure []
        pure ({ distinct, columns, sources, filter, groupBy, having, orderBy := [], limit := none,
                offset := none, windows } : Select)
    let orderBy ← if ← keyword? "ORDER" then do
        expectKeyword "BY"
        commaList (orderTerm fuel) fuel
      else pure []
    let (limit, offset) ← if ← keyword? "LIMIT" then do
        let first ← exprAt fuel 0
        if ← keyword? "OFFSET" then pure (some first, some (← exprAt fuel 0))
        else if ← symbol? "," then pure (some (← exprAt fuel 0), some first)
        else pure (some first, none)
      else pure (none, none)
    pure (withTail core orderBy limit offset)

/-- The further queries of a compound query, each after its operator. -/
def compoundRest : Nat → Parser (List (CompoundOp × Select))
  | 0 => pure []
  | fuel + 1 => do
    match ← compoundOp? with
    | none => pure []
    | some op =>
      let q ← oneSelect fuel
      pure ((op, q) :: (← compoundRest fuel))

/-- A query, maybe compound: the sort terms and limit written after the last of
its queries apply to the whole. The rows of a `VALUES` are queries of the
compound of their own. -/
def compoundSelect : Nat → Parser Select
  | 0 => throw (.unsupported "query nested too deeply")
  | fuel + 1 => do
    let first ← oneSelect fuel
    let rest ← compoundRest fuel
    let parts := first.compound ++
      rest.flatMap fun (op, q) => (op, { q with compound := [] }) :: q.compound
    let first := { first with compound := [] }
    match parts.getLast? with
    | none => pure first
    | some (_, last) =>
      if let some (clause, op) := misplacedClause first parts then
        throw (.unsupported (clause ++ " clause should come after " ++ op.name ++ " not before"))
      pure { first with
        compound := parts.map fun (op, q) => (op, { q with orderBy := [], limit := none, offset := none })
        orderBy := last.orderBy, limit := last.limit, offset := last.offset }

/-- A query, maybe after `WITH` and its common table expressions: each a name,
maybe column names, and a query in parentheses. -/
def select : Nat → Parser Select
  | 0 => throw (.unsupported "query nested too deeply")
  | fuel + 1 => do
    if ← keyword? "WITH" then
      let _ ← keyword? "RECURSIVE"
      let ctes ← commaList (do
        let n ← name
        let columns ← if ← atSymbol "(" then some <$> nameList fuel else pure none
        expectKeyword "AS"
        if ← keyword? "NOT" then expectKeyword "MATERIALIZED"
        else let _ ← keyword? "MATERIALIZED"
        expectSymbol "("
        let q ← select fuel
        expectSymbol ")"
        pure (n, columns, q)) fuel
      let q ← compoundSelect fuel
      pure { q with ctes }
    else compoundSelect fuel

end

/-! ## Definitions -/

/-- An optional `ON CONFLICT` clause. -/
def conflictClause : Parser Unit := do
  if ← keyword? "ON" then
    expectKeyword "CONFLICT"
    let _ ← advance

/-- The clauses of a foreign key after `REFERENCES`. -/
def referenceClauses : Nat → Parser Unit
  | 0 => pure ()
  | fuel + 1 => do
    if ← keyword? "ON" then
      let _ ← advance
      if ← keyword? "SET" then let _ ← advance
      else if ← keyword? "NO" then expectKeyword "ACTION"
      else let _ ← advance
      referenceClauses fuel
    else if ← keyword? "MATCH" then
      let _ ← name
      referenceClauses fuel
    else if (← atKeyword "NOT") && (← peekSecond).any (·.isKeyword "DEFERRABLE") then
      let _ ← advance
      referenceClauses fuel
    else if ← keyword? "DEFERRABLE" then
      if ← keyword? "INITIALLY" then let _ ← advance
      referenceClauses fuel
    else pure ()

/-- A `REFERENCES` clause. -/
def references (fuel : Nat) : Parser Unit := do
  let _ ← name
  if ← atSymbol "(" then let _ ← nameList fuel
  referenceClauses fuel

/-- A default value: a number with a sign, a literal, an expression in
parentheses, or a bare word standing for its text. -/
def defaultValue (fuel : Nat) : Parser Expr := do
  let some t ← peek | throw .incomplete
  if t.isSymbol "(" then
    let _ ← advance
    let e ← exprAt fuel 0
    expectSymbol ")"
    return e
  if t.isSymbol "-" || t.isSymbol "+" then
    return .literal (← signedNumber)
  if let some (v, e) := literalOf? t then
    let _ ← advance
    notePending e
    return .literal v
  match t.kind with
  | .word w => let _ ← advance; return .literal (.ofString w)
  | _ => throw (unexpected (some t))

/-- A `CHECK` constraint's condition in parentheses, under a name if one was given. -/
def checkClause (fuel : Nat) (label : Option String) : Parser CheckDef := do
  expectSymbol "("
  let start ← nextOffset
  let e ← exprAt fuel 0
  let text ← textFrom start
  expectSymbol ")"
  pure ⟨label, e, text⟩

/-- The constraints of a column definition; `label` is the name the last
`CONSTRAINT` gave. -/
def columnConstraints (fuel : Nat) (c : ColumnDef) (label : Option String) : Nat → Parser ColumnDef
  | 0 => pure c
  | steps + 1 => do
    if ← keyword? "CONSTRAINT" then
      let n ← name
      columnConstraints fuel c (some n) steps
    else if ← keyword? "PRIMARY" then
      expectKeyword "KEY"
      let descending ← keyword? "DESC"
      if !descending then let _ ← keyword? "ASC"
      conflictClause
      let auto ← keyword? "AUTOINCREMENT"
      columnConstraints fuel { c with primaryKey := true, descending, autoincrement := auto } label steps
    else if ← keyword? "NOT" then
      expectKeyword "NULL"
      conflictClause
      columnConstraints fuel { c with notNull := true } label steps
    else if ← keyword? "NULL" then
      conflictClause
      columnConstraints fuel c label steps
    else if ← keyword? "UNIQUE" then
      conflictClause
      columnConstraints fuel { c with unique := true } label steps
    else if ← keyword? "CHECK" then
      let check ← checkClause fuel label
      columnConstraints fuel { c with checks := c.checks ++ [check] } label steps
    else if ← keyword? "DEFAULT" then
      let d ← defaultValue fuel
      columnConstraints fuel { c with default := some d } label steps
    else if ← keyword? "COLLATE" then
      let n ← name
      columnConstraints fuel { c with collation := some n } label steps
    else if ← keyword? "REFERENCES" then
      references fuel
      columnConstraints fuel c label steps
    else pure c

/-- A column definition. -/
def columnDef (fuel : Nat) : Parser ColumnDef := do
  let n ← name
  let declaredType ← if ((← peek).bind nameOf?).isSome then some <$> typeName fuel else pure none
  columnConstraints fuel { name := n, declaredType } none fuel

/-- What a table-wide constraint adds: a primary key, a unique key or a check. -/
inductive TableConstraint where
  | primaryKey (columns : List String)
  | unique (columns : List String)
  | check (c : CheckDef)
  | other

/-- A table-wide constraint. -/
def tableConstraint (fuel : Nat) : Parser TableConstraint := do
  let label ← if ← keyword? "CONSTRAINT" then some <$> name else pure none
  if ← keyword? "PRIMARY" then
    expectKeyword "KEY"
    let cs ← indexedColumns fuel
    let _ ← keyword? "AUTOINCREMENT"
    conflictClause
    return .primaryKey cs
  if ← keyword? "UNIQUE" then
    let cs ← indexedColumns fuel
    conflictClause
    return .unique cs
  if ← keyword? "CHECK" then
    let check ← checkClause fuel label
    conflictClause
    return .check check
  expectKeyword "FOREIGN"
  expectKeyword "KEY"
  let _ ← nameList fuel
  expectKeyword "REFERENCES"
  references fuel
  return .other

/-- Whether the next token starts a table-wide constraint. -/
def atTableConstraint : Parser Bool := do
  pure ((← peek).any fun t => t.isKeyword "CONSTRAINT" || t.isKeyword "PRIMARY" ||
    t.isKeyword "UNIQUE" || t.isKeyword "CHECK" || t.isKeyword "FOREIGN")

/-- The column definitions of a table, then its table-wide constraints, and
the offset of the comma before those constraints if there are any. -/
def tableBody (fuel : Nat) : Nat → Parser (List ColumnDef × List TableConstraint × Option Nat)
  | 0 => throw .incomplete
  | steps + 1 => do
    let c ← columnDef fuel
    match ← peek with
    | some t =>
      if t.isSymbol "," then
        let _ ← advance
        if ← atTableConstraint then
          let cs ← commaList (tableConstraint fuel) fuel
          pure ([c], cs, some t.offset)
        else
          let (rest, cs, comma) ← tableBody fuel steps
          pure (c :: rest, cs, comma)
      else pure ([c], [], none)
    | none => pure ([c], [], none)

/-- An optional `IF NOT EXISTS`. -/
def ifNotExists : Parser Bool := do
  if ← keyword? "IF" then
    expectKeyword "NOT"
    expectKeyword "EXISTS"
    pure true
  else pure false

/-- A name maybe qualified by a schema: the schema, the name, and the token of
the name. -/
def qualifiedName : Parser (Option String × String × Token) := do
  let (n, t) ← nameToken
  if ← symbol? "." then
    let (m, u) ← nameToken
    pure (some n, m, u)
  else pure (none, n, t)

/-! ## Changes -/

/-- A row of values in parentheses. -/
def valueRow (fuel : Nat) : Parser (List Expr) := do
  expectSymbol "("
  let es ← exprList fuel
  expectSymbol ")"
  pure es

/-- What `OR` names to do with a row that breaks a constraint. -/
def conflictAction : Parser ConflictAction := do
  if ← keyword? "IGNORE" then return .ignore
  if ← keyword? "REPLACE" then return .replace
  if (← keyword? "ABORT") || (← keyword? "FAIL") || (← keyword? "ROLLBACK") then return .abort
  failHere

/-- An optional `RETURNING` clause: the result columns of the changed rows. -/
def returningClause (fuel : Nat) : Parser (List ResultColumn) := do
  if ← keyword? "RETURNING" then commaList (resultColumn fuel) fuel else pure []

/-- An optional upsert clause, `ON CONFLICT … DO NOTHING`, which leaves out a
row that would break a constraint. -/
def upsertClause (fuel : Nat) (conflict : ConflictAction) : Parser ConflictAction := do
  if ← keyword? "ON" then
    expectKeyword "CONFLICT"
    if ← atSymbol "(" then
      let _ ← indexedColumns fuel
      if ← keyword? "WHERE" then let _ ← exprAt fuel 0
    expectKeyword "DO"
    expectKeyword "NOTHING"
    pure .ignore
  else pure conflict

/-- An `INSERT` or `REPLACE` statement. -/
def insert (fuel : Nat) : Parser Statement := do
  let conflict ← if ← keyword? "REPLACE" then pure ConflictAction.replace
    else do
      expectKeyword "INSERT"
      if ← keyword? "OR" then conflictAction else pure .abort
  expectKeyword "INTO"
  let (schema, table, _) ← qualifiedName
  if ← keyword? "AS" then let _ ← name
  let columns ← if ← atSymbol "(" then some <$> nameList fuel else pure none
  if ← keyword? "DEFAULT" then
    expectKeyword "VALUES"
    return .insert table schema columns .defaults conflict (← returningClause fuel)
  let source ← if (← atKeyword "SELECT") || (← atKeyword "WITH") then InsertSource.query <$> select fuel
    else do
      expectKeyword "VALUES"
      InsertSource.values <$> commaList (valueRow fuel) fuel
  let conflict ← upsertClause fuel conflict
  return .insert table schema columns source conflict (← returningClause fuel)

/-- An `UPDATE` statement. -/
def update (fuel : Nat) : Parser Statement := do
  expectKeyword "UPDATE"
  let conflict ← if ← keyword? "OR" then conflictAction else pure .abort
  let (schema, table, _) ← qualifiedName
  expectKeyword "SET"
  let assignments ← commaList (do
    let c ← name
    expectSymbol "="
    pure (c, ← exprAt fuel 0)) fuel
  let filter ← if ← keyword? "WHERE" then some <$> exprAt fuel 0 else pure none
  return .update table schema assignments filter conflict (← returningClause fuel)

/-- A `DELETE` statement. -/
def delete (fuel : Nat) : Parser Statement := do
  expectKeyword "DELETE"
  expectKeyword "FROM"
  let (schema, table, _) ← qualifiedName
  let filter ← if ← keyword? "WHERE" then some <$> exprAt fuel 0 else pure none
  return .delete table schema filter (← returningClause fuel)

/-- The statements of a trigger, each ended by `;`, up to `END`. -/
def triggerBody (fuel : Nat) : Nat → Parser (List Statement)
  | 0 => throw .incomplete
  | steps + 1 => do
    if ← keyword? "END" then return []
    let some t ← peek | throw .incomplete
    let s ← if t.isKeyword "INSERT" || t.isKeyword "REPLACE" then insert fuel
      else if t.isKeyword "UPDATE" then update fuel
      else if t.isKeyword "DELETE" then delete fuel
      else if t.isKeyword "SELECT" || t.isKeyword "WITH" then Statement.query <$> select fuel
      else throw (unexpected (some t))
    expectSymbol ";"
    pure (s :: (← triggerBody fuel steps))

/-! ## Definitions -/

/-- The options after a table's columns: whether it is `WITHOUT ROWID`. -/
def tableOptions : Nat → Parser Bool
  | 0 => pure false
  | fuel + 1 => do
    let withoutRowid ← if ← keyword? "WITHOUT" then do
        let (w, t) ← nameToken
        if upperAscii w != "ROWID" then throw (.unsupported ("unknown table option: " ++ t.text))
        pure true
      else if ← keyword? "STRICT" then pure false
      else return false
    if ← symbol? "," then pure (withoutRowid || (← tableOptions fuel)) else pure withoutRowid

/-- The rest of a `CREATE TABLE` after its name. -/
def tableRest (fuel : Nat) (schema : Option String) (n : String) (t : Token) (ine temp : Bool) :
    Parser Statement := do
  if ← atKeyword "AS" then throw (.unsupported "CREATE TABLE AS is not supported")
  expectSymbol "("
  let (columns, constraints, comma) ← tableBody fuel fuel
  let close ← nextOffset
  expectSymbol ")"
  let withoutRowid ← tableOptions fuel
  let primaryKey := constraints.findSome? fun
    | .primaryKey cs => some cs
    | _ => none
  let uniques := constraints.filterMap fun
    | .unique cs => some cs
    | _ => none
  let checks := constraints.filterMap fun
    | .check c => some c
    | _ => none
  let sql := "CREATE TABLE " ++ (← textFrom t.offset)
  let d : TableDef :=
    { name := n, nameText := t.text, nameOffset := t.offset, ifNotExists := ine,
      columns, primaryKey, uniques, checks, schema, temp, withoutRowid, sql,
      columnsEnd := 13 + (comma.getD close - t.offset) }
  return .createTable d

/-- The rest of a `CREATE TRIGGER` after its name. -/
def triggerRest (fuel : Nat) (schema : Option String) (n : String) (t : Token) (ine temp : Bool) :
    Parser Statement := do
  let timing ← if ← keyword? "BEFORE" then pure TriggerTiming.before
    else if ← keyword? "AFTER" then pure .after
    else if ← keyword? "INSTEAD" then do expectKeyword "OF"; pure .insteadOf
    else pure .before
  let event ← if ← keyword? "INSERT" then pure TriggerEvent.insert
    else if ← keyword? "DELETE" then pure .delete
    else do
      expectKeyword "UPDATE"
      if ← keyword? "OF" then pure (.update (← commaList name fuel)) else pure (.update [])
  expectKeyword "ON"
  let (_, table, _) ← qualifiedName
  if ← keyword? "FOR" then
    expectKeyword "EACH"
    expectKeyword "ROW"
  let condition ← if ← keyword? "WHEN" then some <$> exprAt fuel 0 else pure none
  expectKeyword "BEGIN"
  let body ← triggerBody fuel fuel
  let sql := "CREATE TRIGGER " ++ (← textFrom t.offset)
  return .createTrigger n schema temp ine timing event table condition body sql

/-- A `CREATE` statement. -/
def create (fuel : Nat) : Parser Statement := do
  expectKeyword "CREATE"
  let temp ← keyword? "TEMP" <||> keyword? "TEMPORARY"
  let unique ← keyword? "UNIQUE"
  if ← keyword? "TABLE" then
    let ine ← ifNotExists
    let (schema, n, t) ← qualifiedName
    return ← tableRest fuel schema n t ine temp
  if ← keyword? "VIEW" then
    let ine ← ifNotExists
    let (schema, n, t) ← qualifiedName
    let columns ← if ← atSymbol "(" then some <$> nameList fuel else pure none
    expectKeyword "AS"
    let q ← select fuel
    let sql := "CREATE VIEW " ++ (← textFrom t.offset)
    let v : ViewDef :=
      { name := n, nameText := t.text, nameOffset := t.offset, ifNotExists := ine,
        columns, query := q, schema, temp, sql }
    return .createView v
  if ← keyword? "TRIGGER" then
    let ine ← ifNotExists
    let (schema, n, t) ← qualifiedName
    return ← triggerRest fuel schema n t ine temp
  expectKeyword "INDEX"
  let ine ← ifNotExists
  let (schema, n, t) ← qualifiedName
  expectKeyword "ON"
  let table ← name
  let columns ← indexedColumns fuel
  if ← keyword? "WHERE" then let _ ← exprAt fuel 0
  let sql := (if unique then "CREATE UNIQUE INDEX " else "CREATE INDEX ") ++ (← textFrom t.offset)
  return .createIndex { name := n, table, columns, unique, ifNotExists := ine, schema, sql }

/-- A `DROP` statement. -/
def drop : Parser Statement := do
  expectKeyword "DROP"
  let kind ← advance
  let ifExists ← if ← keyword? "IF" then do expectKeyword "EXISTS"; pure true else pure false
  let (schema, n, _) ← qualifiedName
  if kind.isKeyword "TABLE" then return .drop .table n schema ifExists
  if kind.isKeyword "VIEW" then return .drop .view n schema ifExists
  if kind.isKeyword "INDEX" then return .drop .index n schema ifExists
  if kind.isKeyword "TRIGGER" then return .drop .trigger n schema ifExists
  throw (unexpected (some kind))

/-- An `ALTER TABLE` statement. -/
def alter (fuel : Nat) : Parser Statement := do
  expectKeyword "ALTER"
  expectKeyword "TABLE"
  let (schema, table, _) ← qualifiedName
  if ← keyword? "RENAME" then
    if ← keyword? "TO" then return .alterTable table schema (.renameTable (← name))
    let _ ← keyword? "COLUMN"
    let old ← name
    expectKeyword "TO"
    let new ← name
    return .alterTable table schema (.renameColumn old new)
  if ← keyword? "ADD" then
    let _ ← keyword? "COLUMN"
    let start ← nextOffset
    let c ← columnDef fuel
    let text ← textFrom start
    return .alterTable table schema (.addColumn c text)
  expectKeyword "DROP"
  let _ ← keyword? "COLUMN"
  return .alterTable table schema (.dropColumn (← name))

/-- Skips the tokens up to the end of the statement. -/
def skipStatement : Nat → Parser Unit
  | 0 => pure ()
  | fuel + 1 => do
    match ← peek with
    | some t => if t.isSymbol ";" then pure () else do let _ ← advance; skipStatement fuel
    | none => pure ()

/-- One statement. -/
def statement (fuel : Nat) : Parser Statement := do
  let some t ← peek | throw .incomplete
  if t.isKeyword "SELECT" || t.isKeyword "WITH" || t.isKeyword "VALUES" then return .query (← select fuel)
  if t.isKeyword "CREATE" then return ← create fuel
  if t.isKeyword "INSERT" || t.isKeyword "REPLACE" then return ← insert fuel
  if t.isKeyword "UPDATE" then return ← update fuel
  if t.isKeyword "DELETE" then return ← delete fuel
  if t.isKeyword "DROP" then return ← drop
  if t.isKeyword "ALTER" then return ← alter fuel
  if t.isKeyword "ATTACH" then
    let _ ← advance
    let _ ← keyword? "DATABASE"
    let file ← exprAt fuel 0
    expectKeyword "AS"
    return .attach file (← name)
  if t.isKeyword "DETACH" then
    let _ ← advance
    let _ ← keyword? "DATABASE"
    return .detach (← name)
  if t.isKeyword "ANALYZE" then
    let _ ← advance
    skipStatement fuel
    return .analyze
  if t.isKeyword "BEGIN" || t.isKeyword "COMMIT" || t.isKeyword "END" || t.isKeyword "ROLLBACK" ||
      t.isKeyword "PRAGMA" || t.isKeyword "VACUUM" || t.isKeyword "REINDEX" || t.isKeyword "SAVEPOINT" ||
      t.isKeyword "RELEASE" then
    let _ ← advance
    skipStatement fuel
    return .nothing
  throw (unexpected (some t))

/-- One statement and its end: a `;` or the end of the text. -/
def terminatedStatement (fuel : Nat) : Parser Statement := do
  let s ← statement fuel
  if !(← symbol? ";") then
    if let some t ← peek then throw (unexpected (some t))
  match (← get).pending with
  | some e => throw e
  | none => return s

end Parser

/-- A statement read from the front of a token list: the statement, the tokens
after it, and where its text ends (after its `;`, if it has one). -/
structure ReadStatement where
  statement : Statement
  rest : List Token
  stop : Nat

/-- Reads the first statement of a token list. -/
def readStatement (source : List UInt8) (start : Nat) (tokens : List Token) :
    Except SqlError ReadStatement := do
  let fuel := 16 * (tokens.length + 2)
  let (s, c) ← (Parser.terminatedStatement fuel).run { tokens, lastStop := start, source }
  pure ⟨s, c.tokens, c.lastStop⟩

end Timeline.Sql
