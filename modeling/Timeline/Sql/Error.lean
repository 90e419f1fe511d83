import Timeline.Sql.Value
/-!
# Errors of the database

Each cause of failure is a constructor; `SqlError.message` holds the wording.

Every error also carries a numeric result code (`SqlError.code`), reported as
the cause under the message.

Errors found while a statement is compiled may point at the token they are
about: `SqlError.offset?` gives that byte offset, counted from the start of the
statement text. A name inside a join's `ON` condition points nowhere; it is
kept with offset zero, which no name of a statement can have. A message is then read together with the statement, as
`… in <statement> at offset <n>` (`SqlError.describe`). Errors found while the
statement runs, such as a failed constraint, point nowhere.
-/

namespace Timeline.Sql

/-- The English ordinal of a number: `1st`, `2nd`, `3rd`, `4th`, `11th`, `21st`. -/
def ordinal (n : Nat) : String :=
  let suffix :=
    if n % 100 ≥ 11 && n % 100 ≤ 13 then "th"
    else match n % 10 with
      | 1 => "st"
      | 2 => "nd"
      | 3 => "rd"
      | _ => "th"
  toString n ++ suffix

/-- Why the database refused a statement. -/
inductive SqlError where
  /-- A token that cannot continue the statement. -/
  | unexpectedToken (token : String) (offset : Nat)
  /-- The statement ends too early. -/
  | incomplete
  /-- Text that is no token. -/
  | unrecognized (text : String) (offset : Nat)
  | noSuchTable (name : String)
  | noSuchColumn (name : String) (offset : Nat)
  | ambiguousColumn (name : String) (offset : Nat)
  | noSuchFunction (name : String) (offset : Nat)
  | noSuchCollation (name : String)
  /-- A function over a window where none may be computed. -/
  | misuseWindow (name : String) (offset : Nat)
  /-- `OVER` after a function that is not computed over windows. -/
  | notWindowFunction (name : String) (offset : Nat)
  | wrongArgumentCount (name : String) (offset : Nat)
  /-- A second argument of `likelihood` that is no real literal from 0 to 1. -/
  | badLikelihood (name : String) (offset : Nat)
  /-- A hex literal that does not fit in 64 bits; its text, with its sign. -/
  | hexTooBig (text : String) (offset : Nat)
  /-- A table or view of that name exists already. -/
  | alreadyExists (kind name : String) (offset : Nat)
  | duplicateColumn (name : String)
  | noColumnNamed (table column : String)
  | tableValueCount (table : String) (columns values : Nat)
  | valueCount (values columns : Nat)
  | ragged
  | notNull (table column : String)
  | unique (columns : List String)
  /-- A row for which a `CHECK` condition is false; the constraint's name or text. -/
  | checkFailed (label : String)
  | datatypeMismatch
  | isView (name : String)
  | reservedName (name : String)
  | primaryKeyTwice (table : String)
  | autoincrementOnly
  /-- An aggregate function where aggregates cannot be computed. -/
  | misuseAggregate (name : String) (offset : Nat)
  /-- A name of a result column that stands for an aggregate, where aggregates cannot be computed. -/
  | misuseAliasedAggregate (name : String)
  /-- An aggregate function in a condition on rows of a query that computes aggregates. -/
  | aggregateOnRows (name : String) (offset : Nat)
  | aggregateInGroupBy
  | havingWithoutAggregate
  | distinctAggregateArity
  /-- A sort or grouping term that names a result column by a number out of range. -/
  | termOutOfRange (clause : String) (term count : Nat) (offset : Option Nat)
  | integerOverflow
  | unsupported (what : String)
  /-- A file whose header says database but whose pages are not one. -/
  | notADatabase
  /-- A database file whose pages do not hold what its header promises. -/
  | corrupt

/-- The text of an error. -/
def SqlError.message : SqlError → String
  | .unexpectedToken t _ => "near \"" ++ t ++ "\": syntax error"
  | .incomplete => "incomplete input"
  | .unrecognized t _ => "unrecognized token: \"" ++ t ++ "\""
  | .noSuchTable n => "no such table: " ++ n
  | .noSuchColumn n _ => "no such column: " ++ n
  | .ambiguousColumn n _ => "ambiguous column name: " ++ n
  | .noSuchFunction n _ => "no such function: " ++ n
  | .noSuchCollation n => "no such collation sequence: " ++ n
  | .misuseWindow n _ => "misuse of window function " ++ n ++ "()"
  | .notWindowFunction n _ => n ++ "() may not be used as a window function"
  | .wrongArgumentCount n _ => "wrong number of arguments to function " ++ n ++ "()"
  | .badLikelihood n _ => "second argument to " ++ n ++ "() must be a constant between 0.0 and 1.0"
  | .hexTooBig t _ => "hex literal too big: " ++ t
  | .alreadyExists k n _ => k ++ " " ++ n ++ " already exists"
  | .duplicateColumn n => "duplicate column name: " ++ n
  | .noColumnNamed t c => "table " ++ t ++ " has no column named " ++ c
  | .tableValueCount t c v =>
    "table " ++ t ++ " has " ++ toString c ++ " columns but " ++ toString v ++ " values were supplied"
  | .valueCount v c => toString v ++ " values for " ++ toString c ++ " columns"
  | .ragged => "all VALUES must have the same number of terms"
  | .notNull t c => "NOT NULL constraint failed: " ++ t ++ "." ++ c
  | .unique cs => "UNIQUE constraint failed: " ++ ", ".intercalate cs
  | .checkFailed l => "CHECK constraint failed: " ++ l
  | .datatypeMismatch => "datatype mismatch"
  | .isView n => "cannot modify " ++ n ++ " because it is a view"
  | .reservedName n => "object name reserved for internal use: " ++ n
  | .primaryKeyTwice t => "table \"" ++ t ++ "\" has more than one primary key"
  | .autoincrementOnly => "AUTOINCREMENT is only allowed on an INTEGER PRIMARY KEY"
  | .misuseAggregate n _ => "misuse of aggregate function " ++ n ++ "()"
  | .misuseAliasedAggregate n => "misuse of aliased aggregate " ++ n
  | .aggregateOnRows n _ => "misuse of aggregate: " ++ n ++ "()"
  | .aggregateInGroupBy => "aggregate functions are not allowed in the GROUP BY clause"
  | .havingWithoutAggregate => "HAVING clause on a non-aggregate query"
  | .distinctAggregateArity => "DISTINCT aggregates must have exactly one argument"
  | .termOutOfRange c i n _ =>
    ordinal i ++ " " ++ c ++ " BY term out of range - should be between 1 and " ++ toString n
  | .integerOverflow => "integer overflow"
  | .unsupported w => w
  | .notADatabase => "file is not a database"
  | .corrupt => "database disk image is malformed"

/-- The byte offset an error points at, if it points at one. -/
def SqlError.offset? : SqlError → Option Nat
  | .unexpectedToken _ o | .unrecognized _ o | .alreadyExists _ _ o | .hexTooBig _ o => some o
  | .noSuchColumn _ o | .ambiguousColumn _ o | .noSuchFunction _ o | .wrongArgumentCount _ o
  | .badLikelihood _ o | .misuseWindow _ o | .notWindowFunction _ o
  | .misuseAggregate _ o | .aggregateOnRows _ o => if o > 0 then some o else none
  | .termOutOfRange _ _ _ o => o
  | _ => none

/-- The same error, its offset counted from `start` instead of from zero. -/
def SqlError.shift (start : Nat) : SqlError → SqlError
  | .unexpectedToken t o => .unexpectedToken t (o - start)
  | .unrecognized t o => .unrecognized t (o - start)
  | .noSuchColumn n o => .noSuchColumn n (o - start)
  | .ambiguousColumn n o => .ambiguousColumn n (o - start)
  | .noSuchFunction n o => .noSuchFunction n (o - start)
  | .wrongArgumentCount n o => .wrongArgumentCount n (o - start)
  | .badLikelihood n o => .badLikelihood n (o - start)
  | .misuseWindow n o => .misuseWindow n (o - start)
  | .notWindowFunction n o => .notWindowFunction n (o - start)
  | .hexTooBig t o => .hexTooBig t (o - start)
  | .alreadyExists k n o => .alreadyExists k n (o - start)
  | .misuseAggregate n o => .misuseAggregate n (o - start)
  | .aggregateOnRows n o => .aggregateOnRows n (o - start)
  | .termOutOfRange c i n o => .termOutOfRange c i n (o.map (· - start))
  | e => e

/-- The result code the database reports with an error: a file that is not a
database, a value of the wrong type, or the general code of every other error. -/
def SqlError.code : SqlError → Nat
  | .notADatabase => 26
  | .corrupt => 11
  | .datatypeMismatch => 20
  | _ => 1

/-- What a result code means. -/
def resultCodeText : Nat → String
  | 1 => "SQL error or missing database"
  | 11 => "The database disk image is malformed"
  | 20 => "Data type mismatch"
  | 26 => "File opened that is not a database file"
  | _ => "Unknown error code"

/-- The result code of an error as the cause under its message. -/
def SqlError.underlying (e : SqlError) : String :=
  "Error code " ++ toString e.code ++ ": " ++ resultCodeText e.code

/-- An error read together with the statement it is about. -/
def SqlError.describe (e : SqlError) (statement : String) : String :=
  match e.offset? with
  | some o => e.message ++ " in " ++ statement ++ " at offset " ++ toString o
  | none => e.message

end Timeline.Sql
