import Timeline.Sql.Change
import Timeline.Sql.Parse
/-!
# Running statements

`Database.execute` runs a text of statements one after another, as a batch: a
statement that fails leaves the database as it was before that statement, and
the statements after it are not run.

`Database.query` compiles and runs the first statement of a text and gives its
result rows: a query's, or those of the `RETURNING` clause of a change.
-/

namespace Timeline.Sql

/-- A statement that failed, the statement text from its start to the end of
the batch, and the cause with its offset counted from that start. -/
structure BatchError where
  error : SqlError
  statement : String

/-- The message of a failed statement of a batch. -/
def BatchError.message (e : BatchError) : String :=
  e.error.describe e.statement

/-- The depth to which triggers may set off triggers. -/
def triggerDepth : Nat := 1000

/-- Runs one statement, with the triggers running already, and gives the
database after it with the rows of its `RETURNING` clause. -/
def Database.runWith (db : Database) : Nat → List String → Statement →
    Except SqlError (Database × List (List Value))
  | 0, _, _ => .error (.unsupported "too many levels of trigger recursion")
  | fuel + 1, active, s =>
    let run : Database.Runner := fun active db s => do pure (← db.runWith fuel active s).1
    let only (r : Except SqlError Database) : Except SqlError (Database × List (List Value)) := do
      pure (← r, [])
    match s with
    | .createTable d => only (db.createTable d)
    | .createView v => only (db.createView v)
    | .createIndex i => only (db.createIndex i)
    | .createTrigger n schema temp ine timing event table condition body sql =>
      only (db.createTrigger n schema temp ine timing event table condition body sql)
    | .insert table schema columns source conflict returning => do
      match source with
      | .values rows =>
        db.insertValues run active schema table columns (← db.valueRows schema table columns rows)
          conflict returning
      | .query q =>
        let t ← db.changeTarget schema table
        let r ← db.select q
        let width := r.columns.length
        match columns with
        | some names =>
          if width != names.length then throw (.valueCount width names.length)
        | none =>
          if width != t.columns.length then throw (.tableValueCount table t.columns.length width)
        db.insertValues run active schema table columns r.rows conflict returning
      | .defaults => db.insertValues run active schema table (some []) [[]] conflict returning
    | .update table schema assignments filter conflict returning =>
      db.updateRows run active schema table assignments filter conflict returning
    | .delete table schema filter returning => db.deleteRows run active schema table filter returning
    | .drop kind n schema ifExists => only (db.dropObject kind n schema ifExists)
    | .alterTable table schema action => only (db.alterTable table schema action)
    | .attach file schema => only (db.attach file schema)
    | .detach schema => only (db.detach schema)
    | .analyze => pure (db.analyze, [])
    | .query q => do
      let _ ← db.select q
      pure (db, [])
    | .nothing => pure (db, [])

/-- Runs one statement. -/
def Database.run (db : Database) (s : Statement) : Except SqlError Database := do
  pure (← db.runWith triggerDepth [] s).1

/-- The bytes of a text. -/
def textBytes (s : String) : List UInt8 := s.toUTF8.toList

/-- The text of a run of bytes from an offset on. -/
def textAfter (bytes : List UInt8) (start : Nat) : String :=
  String.fromUTF8! ⟨(bytes.drop start).toArray⟩

/-- Runs the statements of a text in order; the first failure stops the run. -/
def Database.execute (db : Database) (sql : String) : Except BatchError Database :=
  let source := textBytes sql
  let tokens := tokenize sql
  go source db tokens 0 (tokens.length + 1)
where
  go (source : List UInt8) (db : Database) (tokens : List Token) (start : Nat) : Nat → Except BatchError Database
    | 0 => .ok db
    | fuel + 1 =>
      match tokens with
      | [] => .ok db
      | t :: rest =>
        if t.isSymbol ";" then go source db rest t.stop fuel
        else
          let fail (e : SqlError) : BatchError := ⟨e.shift start, textAfter source start⟩
          match readStatement source start tokens with
          | .error e => .error (fail e)
          | .ok r =>
            match db.run r.statement with
            | .error e => .error (fail e)
            | .ok db' => go source db' r.rest r.stop fuel

/-- Compiles and runs the first statement of a text, which must be a query. -/
def Database.query (db : Database) (sql : String) : Except SqlError ResultSet := do
  let source := textBytes sql
  let tokens := (tokenize sql).dropWhile (·.isSymbol ";")
  if tokens.isEmpty then return ⟨[], [], [], []⟩
  let r ← readStatement source 0 tokens
  match r.statement with
  | .query q => db.select q
  | s => do
    let (_, rows) ← db.runWith triggerDepth [] s
    let names := match s with
      | .insert table schema _ _ _ returning | .update table schema _ _ _ returning
      | .delete table schema _ returning => db.returningNames schema table returning
      | _ => []
    if names.isEmpty then pure ⟨[], [], [], []⟩
    else pure ⟨names, names.map fun _ => none, names.map fun _ => .binary, rows⟩

end Timeline.Sql
