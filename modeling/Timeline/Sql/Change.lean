import Timeline.Sql.Query
import Timeline.Sql.Bind
import Timeline.Sql.Schema
/-!
# Changing rows

Inserting a row fills the columns that are not given from their defaults,
assigns the row id (the given `INTEGER PRIMARY KEY`, else one more than the
greatest, or than the greatest ever handed out under `AUTOINCREMENT`), stores
each value under its column's affinity, and then checks `NOT NULL`, the
`CHECK` constraints, the row id and the unique keys, in that order. A row that
breaks one fails the statement, or under `OR IGNORE` is left out, or under
`OR REPLACE` takes the column's default for a null (when it has one) and
pushes out the rows whose keys it shares.

An update computes each row's new values from its old ones and checks them as
an insert does, the row itself aside; a delete removes the rows its condition
holds for.

For each row, the triggers of the event run before and after the change,
newest first, with `NEW` and `OLD` standing for the row; a trigger does not set
itself off again. A trigger `INSTEAD OF` a change to a view runs in place of
the change. `RETURNING` gives a result row for each row changed.
-/

namespace Timeline.Sql

/-- The scope of one table, for checks, `UPDATE`, `DELETE` and `RETURNING`. -/
def Table.scope (t : Table) : Scope :=
  [{ name := t.name, columns := t.columns.map fun c => (c.name, c.affinity), hasRowid := !t.withoutRowid,
     rowidColumn := t.rowidColumn, collations := t.columns.map (·.collation) }]

/-- The `UNIQUE` error of a key of a table. -/
def Table.uniqueError (t : Table) (key : List Nat) : SqlError :=
  .unique (key.map fun i => t.name ++ "." ++ ((t.columns[i]?.map (·.name)).getD "rowid"))

/-- The collations of the columns of a key of a table. -/
def Table.keyCollations (t : Table) (key : List Nat) : List Collation :=
  key.map fun i => (t.columns[i]?.map (·.collation)).getD .binary

/-- Whether a condition holds for a row of a table of a database. -/
def Database.rowHolds (db : Database) (t : Table) (filter : Option Expr) (row : Int × List Value) :
    Except SqlError Bool :=
  match filter with
  | some f => do pure ((← db.evalAt t.scope [(row.2, some row.1)] f).truth? == some true)
  | none => pure true

/-- Stores a row under a row id once it passes the constraints, or leaves it
out (`none`) under `OR IGNORE`. `self` is the id of the row an update
replaces, whose keys the row may share. -/
def Table.placeRow (t : Table) (id : Int) (stored : List Value) (conflict : ConflictAction)
    (self : Option Int) : Except SqlError (Option (Table × List Value)) := do
  let mut stored := stored
  for (c, i) in t.columns.zipIdx do
    if c.notNull && (stored.getD i .null).isNull then
      match conflict, c.default with
      | .replace, some e =>
        let d ← e.eval [] []
        if d.isNull then throw (.notNull t.name c.name)
        stored := stored.set i (d.withAffinity c.affinity)
      | .ignore, _ => return none
      | _, _ => throw (.notNull t.name c.name)
  for c in t.checks do
    let v ← c.condition.eval t.scope [(stored, some id)]
    if v.truth? == some false then
      if conflict == .ignore then return none
      throw (.checkFailed (c.name.getD c.text))
  let mut others := t.rows.filter fun (r, _) => some r != self
  if !t.withoutRowid && others.any (·.1 == id) then
    match conflict with
    | .abort => throw (t.uniqueError [t.rowidColumn.getD t.columns.length])
    | .ignore => return none
    | .replace => others := others.filter (·.1 != id)
  for key in t.uniqueKeys do
    let pick (vs : List Value) := key.map fun i => vs.getD i .null
    let mine := pick stored
    let clash (vs : List Value) : Bool := Database.keyClash (t.keyCollations key) (pick vs) mine
    if others.any (clash ·.2) then
      match conflict with
      | .abort => throw (t.uniqueError key)
      | .ignore => return none
      | .replace => others := others.filter fun (_, vs) => !clash vs
  pure (some ({ t with rows := insertByRowid id stored others }, stored))

/-- A row as it is offered to a table: the given values by position, the
others from their defaults, each under its column's affinity; and its row id,
given or none. -/
def Table.offeredRow (t : Table) (given : List (Option Value)) :
    Except SqlError (List Value × Option Int) := do
  let values ← (t.columns.zip given).mapM fun (c, v) => do
    match v with
    | some v => pure v
    | none => match c.default with
      | some e => e.eval [] []
      | none => pure .null
  let id ← match (t.rowidColumn.bind (values[·]?) : Option Value) with
    | some .null | none => pure none
    | some v =>
      match v.withAffinity .integer with
      | .integer n => pure (some n)
      | _ => throw .datatypeMismatch
  let stored := (t.columns.zip values).zipIdx.map fun ((c, v), i) =>
    match t.rowidColumn == some i, id with
    | true, some n => Value.integer n
    | _, _ => v.withAffinity c.affinity
  pure (stored, id)

/-- The row of a table in the table of handed-out row ids. -/
def sequenceRowOf (table : String) (vs : List Value) : Bool :=
  match vs with
  | .text b :: _ => b == table.toUTF8.toList
  | _ => false

namespace Database

/-- The greatest row id handed out for a table under `AUTOINCREMENT`. -/
def sequenceOf (db : Database) (t : Table) : Int :=
  match db.tableIn? t.schema sequenceTableName with
  | some s => match ((s.rows.find? (sequenceRowOf t.name ·.2)).map (·.2) : Option (List Value)) with
    | some [_, Value.integer n] => n
    | _ => 0
  | none => 0

/-- Records a row id handed out under `AUTOINCREMENT`. -/
def noteSequence (db : Database) (t : Table) (id : Int) : Database :=
  match db.tableIn? t.schema sequenceTableName with
  | none => db
  | some s =>
    let rows := match s.rows.find? (sequenceRowOf t.name ·.2) with
      | some (rid, vs) =>
        let old := match vs with
          | [_, .integer n] => n
          | _ => 0
        s.rows.map fun (r, ws) => if r == rid then (r, [Value.ofString t.name, .integer (max old id)]) else (r, ws)
      | none => insertByRowid ((s.maxRowid?.getD 0) + 1) [.ofString t.name, .integer id] s.rows
    db.putTable { s with rows }

/-- Runs a statement of a trigger, given the triggers running already. -/
abbrev Runner := List String → Database → Statement → Except SqlError Database

/-- The triggers that fire on an event of a table at a time, newest first,
leaving out those running already. -/
def triggersFor (db : Database) (schema table : String) (timing : TriggerTiming)
    (fires : TriggerEvent → Bool) (active : List String) : List Trigger :=
  (db.triggers.filter fun tr => (tr.schema == schema || tr.schema == "temp") && sameName tr.table table &&
    tr.timing == timing && fires tr.event && !active.contains tr.name).mergeSort fun a b => a.stamp ≥ b.stamp

/-- Runs triggers for one row: each whose condition holds runs its statements
with the row bound. -/
def fire (db : Database) (run : Runner) (active : List String) (triggers : List Trigger)
    (rows : List BoundRow) : Except SqlError Database :=
  triggers.foldlM (fun db tr => do
    let holds ← match tr.condition with
      | none => pure true
      | some c => do
        let v ← (c.mapColumns (fun q n _ => BoundRow.lookup rows q n) true).eval [] []
        pure (v.truth? == some true)
    if !holds then return db
    tr.body.foldlM (fun db s => run (active ++ [tr.name]) db (s.bindRow rows)) db) db

/-- The result columns of `RETURNING` over a table, checked. -/
def returningColumns (t : Table) (returning : List ResultColumn) : Except SqlError (List OutputColumn) := do
  let outputs ← expandColumns t.scope returning
  for o in outputs do o.expr.check t.scope
  pure outputs

/-- The names of the result columns of `RETURNING` over a table. -/
def returningNames (db : Database) (schema : Option String) (table : String) (returning : List ResultColumn) :
    List String :=
  match db.tableAt? schema table with
  | some t => match returningColumns t returning with
    | .ok outputs => outputs.map (·.name)
    | .error _ => []
  | none => []

/-- The column names of a view. -/
def viewColumns (db : Database) (v : View) : Except SqlError (List String) := do
  match v.columns with
  | some cs => pure cs
  | none => pure (distinctNames (← db.select v.query).columns)

/-- The table a change names, or the error for a name that is no table. -/
def changeTarget (db : Database) (schema : Option String) (name : String) : Except SqlError Table :=
  match db.tableAt? schema name with
  | some t => .ok t
  | none =>
    if (db.viewAt? schema name).isSome then .error (.isView name)
    else .error (.noSuchTable (match schema with
      | some q => q ++ "." ++ name
      | none => name))

/-- Runs the triggers `INSTEAD OF` an event on a view for each of some rows,
or fails when the view has none. -/
def insteadOf (db : Database) (run : Runner) (active : List String) (v : View) (event : TriggerEvent → Bool)
    (rows : List (List BoundRow)) : Except SqlError Database := do
  let triggers := db.triggersFor v.schema v.name .insteadOf event active
  if triggers.isEmpty then throw (.isView v.name)
  rows.foldlM (fun db bound => db.fire run active triggers bound) db

/-- Inserts rows of values into a table, each under the conflict action,
running its triggers; gives the `RETURNING` rows. -/
def insertValues (db : Database) (run : Runner) (active : List String) (schema : Option String)
    (tableName : String) (columns : Option (List String)) (rows : List (List Value))
    (conflict : ConflictAction) (returning : List ResultColumn) :
    Except SqlError (Database × List (List Value)) := do
  match db.tableAt? schema tableName, db.viewAt? schema tableName with
  | none, some v =>
    let names ← db.viewColumns v
    let positions := match columns with
      | some given => given.map fun n => (names.findIdx? (sameName · n)).getD names.length
      | none => List.range names.length
    let bound := rows.map fun row =>
      [⟨"new", names, (List.range names.length).map fun i =>
        ((positions.zip row).find? (·.1 == i)).map (·.2) |>.getD .null, none⟩]
    pure (← db.insteadOf run active v (· == .insert) bound, [])
  | _, _ =>
  let t ← db.changeTarget schema tableName
  let positions ← match columns with
    | some names => names.mapM fun n =>
        match t.columnIndex? n with
        | some i => .ok i
        | none => .error (.noColumnNamed tableName n)
    | none => pure (List.range t.columns.length)
  let outputs ← returningColumns t returning
  let names := t.columns.map (·.name)
  rows.foldlM (fun (acc : Database × List (List Value)) row => do
    let (db, out) := acc
    let some t := db.tableIn? t.schema t.name | throw (.noSuchTable tableName)
    let given := (List.range t.columns.length).map fun i =>
      (positions.zip row).findSome? fun (p, v) => if p == i then some v else none
    let before := db.triggersFor t.schema t.name .before (· == .insert) active
    let db ← if before.isEmpty then pure db else do
      let (values, id) ← t.offeredRow given
      db.fire run active before [⟨"new", names, values, some (id.getD (-1))⟩]
    let some t := db.tableIn? t.schema t.name | throw (.noSuchTable tableName)
    let (values, given) ← t.offeredRow given
    let floor := if t.autoincrement then db.sequenceOf t else 0
    let id := given.getD ((max (t.maxRowid?.getD 0) floor) + 1)
    let values := match t.rowidColumn with
      | some r => values.set r (.integer id)
      | none => values
    match ← t.placeRow id values conflict none with
    | none => pure (db, out)
    | some (t', stored) =>
      let db := db.putTable t'
      let db := if t'.autoincrement then db.noteSequence t' id else db
      let after := db.triggersFor t.schema t.name .after (· == .insert) active
      let db ← db.fire run active after [⟨"new", names, stored, some id⟩]
      let result ← outputs.mapM fun o => o.expr.eval t'.scope [(stored, some id)]
      pure ({ db with written := true }, out ++ [result])) (db, [])

/-- Evaluates the rows of `VALUES`, checking their lengths against the table
or view. -/
def valueRows (db : Database) (schema : Option String) (tableName : String)
    (columns : Option (List String)) (rows : List (List Expr)) : Except SqlError (List (List Value)) := do
  let width := (rows.head?.map List.length).getD 0
  if rows.any (·.length != width) then throw .ragged
  match db.tableAt? schema tableName, db.viewAt? schema tableName with
  | none, some _ => pure ()
  | _, _ =>
    let t ← db.changeTarget schema tableName
    match columns with
    | some names =>
      for n in names do
        if (t.columnIndex? n).isNone then throw (.noColumnNamed tableName n)
      if width != names.length then throw (.valueCount width names.length)
    | none =>
      if width != t.columns.length then throw (.tableValueCount tableName t.columns.length width)
  for r in rows do
    Expr.checkList [] r
  rows.mapM (·.mapM (db.evalAt [] []))

/-- Whether an update of some columns sets off a trigger's event. -/
def updateFires (changed : List String) : TriggerEvent → Bool
  | .update columns => columns.isEmpty || columns.any fun c => changed.any (sameName · c)
  | _ => false

/-- Updates the rows of a table a condition holds for, running triggers; gives
the `RETURNING` rows. -/
def updateRows (db : Database) (run : Runner) (active : List String) (schema : Option String)
    (tableName : String) (assignments : List (String × Expr)) (filter : Option Expr)
    (conflict : ConflictAction) (returning : List ResultColumn) :
    Except SqlError (Database × List (List Value)) := do
  let changed := assignments.map (·.1)
  match db.tableAt? schema tableName, db.viewAt? schema tableName with
  | none, some v =>
    let r ← db.select v.query
    let names ← db.viewColumns v
    let scope : Scope := [(r.relation v.name).shape]
    let rows ← r.rows.filterM fun vs => do
      match filter with
      | some f => pure ((← db.evalAt scope [(vs, none)] f).truth? == some true)
      | none => pure true
    let bound ← rows.mapM fun vs => do
      let updates ← assignments.mapM fun (c, e) => do pure (c, ← db.evalAt scope [(vs, none)] e)
      let new := (names.zip vs).map fun (n, old) => ((updates.find? (sameName ·.1 n)).map (·.2)).getD old
      pure [⟨"old", names, vs, none⟩, (⟨"new", names, new, none⟩ : BoundRow)]
    pure (← db.insteadOf run active v (updateFires changed) bound, [])
  | _, _ =>
  let t ← db.changeTarget schema tableName
  let positions ← assignments.mapM fun (c, _) =>
    match t.columnIndex? c with
    | some i => .ok i
    | none => .error (.noSuchColumn c 0)
  for (_, e) in assignments do e.check t.scope
  if let some f := filter then f.check t.scope
  let outputs ← returningColumns t returning
  let names := t.columns.map (·.name)
  let targets ← t.rows.filterM (db.rowHolds t filter)
  targets.foldlM (fun (acc : Database × List (List Value)) (id, _) => do
    let (db, out) := acc
    let some t := db.tableIn? t.schema t.name | throw (.noSuchTable tableName)
    let some old := (t.rows.find? (·.1 == id)).map (·.2) | pure (db, out)
    let updates ← assignments.mapM fun (_, e) => db.evalAt t.scope [(old, some id)] e
    let new := old.zipIdx.map fun (v, i) =>
      match (positions.zip updates).reverse.find? (·.1 == i) with
      | some (_, u) => u.withAffinity ((t.columns[i]?.map (·.affinity)).getD .blob)
      | none => v
    let newId ← match t.rowidColumn with
      | some r =>
        if positions.contains r then
          match (new.getD r .null).withAffinity .integer with
          | .integer n => pure n
          | _ => throw .datatypeMismatch
        else pure id
      | none => pure id
    let new := match t.rowidColumn with
      | some r => new.set r (.integer newId)
      | none => new
    let rows := [⟨"old", names, old, some id⟩, (⟨"new", names, new, some newId⟩ : BoundRow)]
    let db ← db.fire run active (db.triggersFor t.schema t.name .before (updateFires changed) active) rows
    let some t := db.tableIn? t.schema t.name | throw (.noSuchTable tableName)
    if !(t.rows.any (·.1 == id)) then return (db, out)
    match ← t.placeRow newId new conflict (some id) with
    | none => pure (db, out)
    | some (t', stored) =>
      let db := db.putTable t'
      let rows := [⟨"old", names, old, some id⟩, (⟨"new", names, stored, some newId⟩ : BoundRow)]
      let db ← db.fire run active (db.triggersFor t.schema t.name .after (updateFires changed) active) rows
      let result ← outputs.mapM fun o => o.expr.eval t'.scope [(stored, some newId)]
      pure ({ db with written := true }, out ++ [result])) ({ db with written := true }, [])

/-- Deletes the rows of a table a condition holds for, running triggers;
gives the `RETURNING` rows. -/
def deleteRows (db : Database) (run : Runner) (active : List String) (schema : Option String)
    (tableName : String) (filter : Option Expr) (returning : List ResultColumn) :
    Except SqlError (Database × List (List Value)) := do
  match db.tableAt? schema tableName, db.viewAt? schema tableName with
  | none, some v =>
    let r ← db.select v.query
    let names ← db.viewColumns v
    let scope : Scope := [(r.relation v.name).shape]
    let rows ← r.rows.filterM fun vs => do
      match filter with
      | some f => pure ((← db.evalAt scope [(vs, none)] f).truth? == some true)
      | none => pure true
    pure (← db.insteadOf run active v (· == .delete) (rows.map fun vs => [⟨"old", names, vs, none⟩]), [])
  | _, _ =>
  let t ← db.changeTarget schema tableName
  if let some f := filter then f.check t.scope
  let outputs ← returningColumns t returning
  let names := t.columns.map (·.name)
  let targets ← t.rows.filterM (db.rowHolds t filter)
  targets.foldlM (fun (acc : Database × List (List Value)) (id, _) => do
    let (db, out) := acc
    let some t := db.tableIn? t.schema t.name | throw (.noSuchTable tableName)
    let some old := (t.rows.find? (·.1 == id)).map (·.2) | pure (db, out)
    let rows := [(⟨"old", names, old, some id⟩ : BoundRow)]
    let db ← db.fire run active (db.triggersFor t.schema t.name .before (· == .delete) active) rows
    let some t := db.tableIn? t.schema t.name | throw (.noSuchTable tableName)
    if !(t.rows.any (·.1 == id)) then return (db, out)
    let db := db.putTable { t with rows := t.rows.filter (·.1 != id) }
    let db ← db.fire run active (db.triggersFor t.schema t.name .after (· == .delete) active) rows
    let result ← outputs.mapM fun o => o.expr.eval t.scope [(old, some id)]
    pure (db, out ++ [result])) ({ db with written := true }, [])

end Database

end Timeline.Sql
