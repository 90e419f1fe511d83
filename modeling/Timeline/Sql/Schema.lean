import Timeline.Sql.Eval
import Timeline.Sql.Parse
import Timeline.Sql.Bind
/-!
# The schema: tables, views, indexes and triggers

A database has the schema `main`, the schema `temp` of `TEMP` objects, and the
schemas attached under names. Every schema object records the text that made
it (`CREATE TABLE` and the statement from the object's name on), the order in
which it was made, and for tables and indexes the page its rows start at: the
first page from 2 on that no other table or index of its schema uses.

A table's `PRIMARY KEY` (unless it is the row id) and `UNIQUE` constraints
each make an index `sqlite_autoindex_<table>_<n>`, numbered among the table's
indexes, with no text; a `WITHOUT ROWID` table's primary key is the table
itself and is listed under no name of its own. A first table with
`AUTOINCREMENT` makes the table `sqlite_sequence` in its schema.

`ALTER TABLE` renames a table (its text then names it in double quotes),
renames a column, or adds a column at the end, whose default fills the rows
there are. `ANALYZE` makes the statistics tables and counts the rows of each
table and index.
-/

namespace Timeline.Sql

/-! ## Tables -/

/-- Whether a table definition makes its column the row id: the only primary-key
column, declared exactly `INTEGER`, and not declared descending. -/
def rowidColumnOf (d : TableDef) : Except SqlError (Option Nat) := do
  let marked := d.columns.zipIdx.filter (·.1.primaryKey)
  match marked, d.primaryKey with
  | _ :: _ :: _, _ | _ :: _, some _ => throw (.primaryKeyTwice d.name)
  | [(c, i)], none =>
    pure (if (c.declaredType.map upperAscii) == some "INTEGER" && !c.descending then some i else none)
  | [], some [n] =>
    match d.columns.zipIdx.find? (sameName ·.1.name n) with
    | some (c, i) => pure (if (c.declaredType.map upperAscii) == some "INTEGER" then some i else none)
    | none => throw (.unsupported ("no such column: " ++ n))
  | _, _ => pure none

/-- Column positions of names of a table definition. -/
def positionsOf (d : TableDef) (names : List String) : Except SqlError (List Nat) :=
  names.mapM fun n =>
    match d.columns.findIdx? (sameName ·.name n) with
    | some i => .ok i
    | none => .error (.unsupported ("no such column: " ++ n))

/-- The keys of a table definition's constraints in the order they are
written, each once, each marked when it is the primary key; a primary key that
is the row id is none of them. -/
def TableDef.keys (d : TableDef) (rowid : Option Nat) : Except SqlError (List (List Nat × Bool)) := do
  let columnKeys := d.columns.zipIdx.filterMap fun (c, i) =>
    if c.primaryKey && rowid != some i then some ([i], true)
    else if c.unique then some ([i], false) else none
  let tableKey ← match d.primaryKey with
    | some names => if rowid.isSome then pure [] else do pure [(← positionsOf d names, true)]
    | none => pure []
  let uniques ← d.uniques.mapM fun names => do pure (← positionsOf d names, false)
  pure ((columnKeys ++ tableKey ++ uniques).foldl (fun acc (k, pk) =>
    if acc.any (·.1 == k) then acc.map fun (k', pk') => (k', pk' || (pk && k' == k)) else acc ++ [(k, pk)]) [])

/-- The table of a definition, without rows, in no schema yet. -/
def TableDef.toTable (d : TableDef) : Except SqlError Table := do
  match (d.columns.map (·.name)).zipIdx.find? fun (n, i) =>
      (d.columns.take i).any (sameName ·.name n) with
  | some (n, _) => throw (.duplicateColumn n)
  | none => pure ()
  let rowid ← if d.withoutRowid then pure none else rowidColumnOf d
  let auto := d.columns.any (·.autoincrement)
  if auto && d.withoutRowid then throw (.unsupported "AUTOINCREMENT not allowed on WITHOUT ROWID tables")
  if auto && rowid.isNone then throw .autoincrementOnly
  let keys ← d.keys rowid
  let primaryKey := ((keys.find? (·.2)).map (·.1)).getD []
  if d.withoutRowid && primaryKey.isEmpty then
    throw (.unsupported ("PRIMARY KEY missing on table " ++ d.name))
  let columns ← d.columns.zipIdx.mapM fun (c, i) => do
    let collation ← match c.collation with
      | some n => match Collation.ofName? n with
        | some coll => pure coll
        | none => throw (SqlError.noSuchCollation n)
      | none => pure .binary
    pure ({ name := c.name, declaredType := c.declaredType, affinity := Affinity.ofDeclared c.declaredType,
            notNull := c.notNull || (d.withoutRowid && primaryKey.contains i), default := c.default,
            collation } : Column)
  pure { name := d.name, columns, rowidColumn := rowid, autoincrement := auto,
         uniqueKeys := keys.map (·.1), rows := [], withoutRowid := d.withoutRowid, primaryKey,
         checks := d.columns.flatMap (·.checks) ++ d.checks, sql := d.sql, columnsEnd := d.columnsEnd }

/-- A column of the database's own tables, of no declared type. -/
def plainColumn (name : String) : Column :=
  { name, declaredType := none, affinity := .blob, notNull := false, default := none }

/-- A table of the database's own, empty. -/
def systemTable (name : String) (columns : List String) : Table :=
  { name, columns := columns.map plainColumn, rowidColumn := none, autoincrement := false,
    uniqueKeys := [], rows := [], sql := "CREATE TABLE " ++ name ++ "(" ++ ",".intercalate columns ++ ")" }

/-- Whether a name is kept for the database's own tables. -/
def isReservedName (n : String) : Bool :=
  (n.toList.take 7).map Char.toLower == "sqlite_".toList

namespace Database

/-- The index of a name in a schema. -/
def indexIn? (db : Database) (schema : String) (name : String) : Option Index :=
  db.indexes.find? fun i => i.schema == schema && sameName i.name name

/-- The trigger of a name in a schema. -/
def triggerIn? (db : Database) (schema : String) (name : String) : Option Trigger :=
  db.triggers.find? fun t => t.schema == schema && sameName t.name name

/-- The schema an object goes to: `temp` for `TEMP`, else the one its
qualifier names, else `main`. -/
def targetSchema (db : Database) (schema : Option String) (temp : Bool) : Except SqlError String :=
  match schema with
  | some q =>
    match db.schemaNamed? q with
    | some s =>
      if temp && s != "temp" then .error (.unsupported "temporary table name must be unqualified")
      else .ok s
    | none => .error (.unsupported ("unknown database " ++ q))
  | none => .ok (if temp then "temp" else "main")

/-- Adds a table to a schema, as the newest object, at the first free page. -/
def addTable (db : Database) (schema : String) (t : Table) : Database :=
  { db with tables := db.tables ++ [{ t with schema, stamp := db.nextStamp, rootpage := db.freePage schema }],
            nextStamp := db.nextStamp + 1 }

/-- Adds an index to a schema, as the newest object, at the first free page. -/
def addIndex (db : Database) (i : Index) : Database :=
  { db with indexes := db.indexes ++ [{ i with stamp := db.nextStamp, rootpage := db.freePage i.schema }],
            nextStamp := db.nextStamp + 1 }

/-- The indexes on a table. -/
def indexesOn (db : Database) (t : Table) : List Index :=
  db.indexes.filter fun i => i.schema == t.schema && sameName i.table t.name

/-- Adds the indexes a new table's keys make, numbered among its indexes; the
primary key of a table without row ids takes its number but makes no index. -/
def addKeyIndexes (db : Database) (t : Table) (keys : List (List Nat × Bool)) : Database :=
  (keys.foldl (fun (acc : Database × Nat) (key, pk) =>
    let (db, n) := acc
    if t.withoutRowid && pk then (db, n + 1)
    else
      let index : Index :=
        { name := "sqlite_autoindex_" ++ t.name ++ "_" ++ toString n, table := t.name,
          columns := key.map fun i => (t.columns[i]?.map (·.name)).getD "", unique := true,
          schema := t.schema }
      (db.addIndex index, n + 1)) (db, 1)).1

/-- Creates a table, the indexes of its keys, and the table of handed-out row
ids when it is the first with `AUTOINCREMENT` in its schema. -/
def createTable (db : Database) (d : TableDef) : Except SqlError Database := do
  let schema ← db.targetSchema d.schema d.temp
  if isReservedName d.name then throw (.reservedName d.name)
  let existing := (db.tableIn? schema d.name).isSome
  let isView := (db.viewIn? schema d.name).isSome
  if existing || isView then
    if d.ifNotExists then return db
    throw (.alreadyExists (if isView then "view" else "table") d.nameText d.nameOffset)
  if (db.indexIn? schema d.name).isSome then
    throw (.unsupported ("there is already an index named " ++ d.name))
  let t ← d.toTable
  let keys ← d.keys t.rowidColumn
  let db := db.addTable schema t
  let t := (db.tableIn? schema d.name).getD t
  let db := db.addKeyIndexes t keys
  let db := if t.autoincrement && (db.tableIn? schema sequenceTableName).isNone then
      db.addTable schema (systemTable sequenceTableName ["name", "seq"])
    else db
  pure { db with written := true }

/-- Creates a view. -/
def createView (db : Database) (v : ViewDef) : Except SqlError Database := do
  let schema ← db.targetSchema v.schema v.temp
  if isReservedName v.name then throw (.reservedName v.name)
  let existing := (db.tableIn? schema v.name).isSome
  let isView := (db.viewIn? schema v.name).isSome
  if existing || isView then
    if v.ifNotExists then return db
    throw (.alreadyExists (if isView then "view" else "table") v.nameText v.nameOffset)
  if (db.indexIn? schema v.name).isSome then
    throw (.unsupported ("there is already an index named " ++ v.name))
  let view : View := { name := v.name, query := v.query, columns := v.columns, schema, sql := v.sql,
                       stamp := db.nextStamp }
  pure { db with views := db.views ++ [view], nextStamp := db.nextStamp + 1, written := true }

/-- Whether two key values clash: equal under the collations, and neither null. -/
def keyClash (colls : List Collation) (a b : List Value) : Bool :=
  (a.zip b).zipIdx.all fun ((x, y), i) =>
    match x, y with
    | .null, _ | _, .null => false
    | _, _ => x.compareWith (colls.getD i .binary) y == .eq

/-- Creates an index, in the schema of its table. A unique index first checks
that no two rows share its key. -/
def createIndex (db : Database) (d : IndexDef) : Except SqlError Database := do
  let t ← match d.schema with
    | some q =>
      match db.schemaNamed? q with
      | some s => match db.tableIn? s d.table with
        | some t => pure t
        | none => throw (.noSuchTable (q ++ "." ++ d.table))
      | none => throw (.unsupported ("unknown database " ++ q))
    | none =>
      match db.table? d.table with
      | some t => pure t
      | none =>
        if (db.view? d.table).isSome then throw (.unsupported "views may not be indexed")
        else throw (.noSuchTable d.table)
  if isReservedName t.name then
    throw (.unsupported ("table " ++ t.name ++ " may not be indexed"))
  if isReservedName d.name then throw (.reservedName d.name)
  if (db.tableIn? t.schema d.name).isSome || (db.viewIn? t.schema d.name).isSome then
    throw (.unsupported ("there is already a table named " ++ d.name))
  if (db.indexIn? t.schema d.name).isSome then
    if d.ifNotExists then return db
    throw (.unsupported ("index " ++ d.name ++ " already exists"))
  let key ← d.columns.mapM fun c =>
    match t.columnIndex? c with
    | some i => .ok i
    | none => .error (.noSuchColumn c 0)
  let db ← if d.unique then do
      let pick (vs : List Value) := key.map fun i => vs.getD i .null
      let colls := key.map fun i => (t.columns[i]?.map (·.collation)).getD .binary
      let clash := t.rows.zipIdx.any fun ((_, vs), i) =>
        (t.rows.take i).any fun (_, ws) => keyClash colls (pick vs) (pick ws)
      if clash then
        throw (.unique (key.map fun i => t.name ++ "." ++ ((t.columns[i]?.map (·.name)).getD "")))
      pure (db.putTable { t with uniqueKeys := t.uniqueKeys ++ [key] })
    else pure db
  let db := db.addIndex { name := d.name, table := t.name, columns := key.map fun i =>
    (t.columns[i]?.map (·.name)).getD "", unique := d.unique, schema := t.schema, sql := some d.sql }
  pure { db with written := true }

/-- Creates a trigger. A `TEMP` trigger may watch a table of any schema;
another watches a table of its own schema. -/
def createTrigger (db : Database) (name : String) (schema : Option String) (temp ifNotExists : Bool)
    (timing : TriggerTiming) (event : TriggerEvent) (table : String) (condition : Option Expr)
    (body : List Statement) (sql : String) : Except SqlError Database := do
  let target ← db.targetSchema schema temp
  if isReservedName name then throw (.reservedName name)
  if (db.triggerIn? target name).isSome then
    if ifNotExists then return db
    throw (.unsupported ("trigger " ++ name ++ " already exists"))
  let tableIn (s : String) : Option (Bool × String) :=
    match db.tableIn? s table with
    | some t => some (false, t.name)
    | none => (db.viewIn? s table).map fun v => (true, v.name)
  let found := if target == "temp" then db.searchOrder.findSome? tableIn else tableIn target
  match found with
  | none => throw (.noSuchTable (target ++ "." ++ table))
  | some (isView, shown) =>
    if isReservedName shown then throw (.unsupported "cannot create trigger on system table")
    if isView && timing != .insteadOf then
      throw (.unsupported ("cannot create " ++ (if timing == .before then "BEFORE" else "AFTER") ++
        " trigger on view: " ++ target ++ "." ++ shown))
    if !isView && timing == .insteadOf then
      throw (.unsupported ("cannot create INSTEAD OF trigger on table: " ++ shown))
    let trigger : Trigger := { name, table := shown, timing, event, condition, body, schema := target, sql,
                               stamp := db.nextStamp }
    pure { db with triggers := db.triggers ++ [trigger], nextStamp := db.nextStamp + 1, written := true }

/-- The schema an object to drop is in: the one its qualifier names, else the
first in search order that has it. -/
def schemaHaving (db : Database) (schema : Option String) (has : String → Bool) : Option String :=
  match schema with
  | some q => (db.schemaNamed? q).bind fun s => if has s then some s else none
  | none => db.searchOrder.find? has

/-- Drops a table, view, index or trigger; a table takes its indexes and
triggers with it. -/
def dropObject (db : Database) (kind : ObjectKind) (name : String) (schema : Option String)
    (ifExists : Bool) : Except SqlError Database := do
  let shown := match schema with
    | some q => q ++ "." ++ name
    | none => name
  match kind with
  | .table =>
    match db.schemaHaving schema fun s => (db.tableIn? s name).isSome with
    | some s =>
      if isReservedName name && !(sameName name "sqlite_stat1" || sameName name "sqlite_stat4") then
        throw (.unsupported ("table " ++ name ++ " may not be dropped"))
      let gone (t : String) := sameName t name
      pure { db with tables := db.tables.filter (fun t => !(t.schema == s && gone t.name)),
                     indexes := db.indexes.filter (fun i => !(i.schema == s && gone i.table)),
                     triggers := db.triggers.filter (fun t => !((t.schema == s || t.schema == "temp") && gone t.table)),
                     written := true }
    | none =>
      if (db.schemaHaving schema fun s => (db.viewIn? s name).isSome).isSome then
        throw (.unsupported ("use DROP VIEW to delete view " ++ name))
      if ifExists then return db
      throw (.noSuchTable shown)
  | .view =>
    match db.schemaHaving schema fun s => (db.viewIn? s name).isSome with
    | some s =>
      pure { db with views := db.views.filter (fun v => !(v.schema == s && sameName v.name name)),
                     triggers := db.triggers.filter (fun t => !((t.schema == s || t.schema == "temp") &&
                       sameName t.table name)),
                     written := true }
    | none =>
      if (db.schemaHaving schema fun s => (db.tableIn? s name).isSome).isSome then
        throw (.unsupported ("use DROP TABLE to delete table " ++ name))
      if ifExists then return db
      throw (.unsupported ("no such view: " ++ shown))
  | .index =>
    match db.schemaHaving schema fun s => (db.indexIn? s name).isSome with
    | some s =>
      let some i := db.indexIn? s name | return db
      if i.sql.isNone then
        throw (.unsupported "index associated with UNIQUE or PRIMARY KEY constraint cannot be dropped")
      let db := match db.tableIn? s i.table with
        | some t =>
          if i.unique then
            let key := i.columns.filterMap t.columnIndex?
            let keys := t.uniqueKeys.reverse
            let keys := match keys.findIdx? (· == key) with
              | some j => keys.eraseIdx j
              | none => keys
            db.putTable { t with uniqueKeys := keys.reverse }
          else db
        | none => db
      pure { db with indexes := db.indexes.filter (fun x => !(x.schema == s && sameName x.name name)),
                     written := true }
    | none =>
      if ifExists then return db
      throw (.unsupported ("no such index: " ++ shown))
  | .trigger =>
    match db.schemaHaving schema fun s => (db.triggerIn? s name).isSome with
    | some s =>
      pure { db with triggers := db.triggers.filter (fun t => !(t.schema == s && sameName t.name name)),
                     written := true }
    | none =>
      if ifExists then return db
      throw (.unsupported ("no such trigger: " ++ shown))

end Database

/-! ## Changes of definitions -/

/-- A name in double quotes, inner double quotes doubled. -/
def quoteName (n : String) : String :=
  "\"" ++ String.join (n.toList.map fun c => if c == '"' then "\"\"" else c.toString) ++ "\""

/-- A text with the bytes from `start` to `stop` replaced. -/
def spliceText (text : String) (start stop : Nat) (replacement : String) : String :=
  let bytes := text.toUTF8.toList
  String.fromUTF8! ⟨((bytes.take start) ++ replacement.toUTF8.toList ++ bytes.drop stop).toArray⟩

/-- Replaces in a definition's text the first name token after the word at
position `after` among its tokens (`TABLE`, `ON`, …) that names `old`. -/
def renameInText (text : String) (afterWord : String) (old new : String) : String :=
  let tokens := tokenize text
  let rest := tokens.dropWhile fun t => !t.isKeyword afterWord
  match (rest.drop 1).find? fun t => match t.kind with
      | .word w | .quoted w => sameName w old
      | _ => false with
  | some t => spliceText text t.offset t.stop (quoteName new)
  | none => text

/-- Renames the sources of a query and of the queries it holds that read a table. -/
def Select.renameSource (old new : String) : Nat → Select → Select
  | 0, q => q
  | fuel + 1, q =>
    { q with
      sources := q.sources.map fun s => if sameName s.name old then { s with name := new } else s
      compound := q.compound.map fun (op, s) => (op, Select.renameSource old new fuel s)
      ctes := q.ctes.map fun (n, cs, s) => (n, cs, Select.renameSource old new fuel s) }

namespace Database

/-- The table `ALTER TABLE` names. -/
def alterTarget (db : Database) (schema : Option String) (name : String) : Except SqlError Table :=
  match db.tableAt? schema name with
  | some t =>
    if isReservedName t.name then .error (.unsupported ("table " ++ t.name ++ " may not be altered"))
    else .ok t
  | none =>
    if (db.viewAt? schema name).isSome then .error (.unsupported ("cannot alter view " ++ name))
    else .error (.noSuchTable (match schema with
      | some q => q ++ "." ++ name
      | none => name))

/-- Renames a table: its text, its indexes and triggers, the views that read it,
and its row of handed-out row ids follow. -/
def renameTable (db : Database) (t : Table) (new : String) : Except SqlError Database := do
  if isReservedName new then throw (.reservedName new)
  if (db.tableIn? t.schema new).isSome || (db.viewIn? t.schema new).isSome || (db.indexIn? t.schema new).isSome then
    throw (.unsupported ("there is already another table or index with this name: " ++ new))
  let old := t.name
  let renamed := { t with name := new, sql := renameInText t.sql "TABLE" old new }
  let db := { db with
    tables := db.tables.map fun (u : Table) => if u.schema == t.schema && sameName u.name old then renamed else u
    indexes := db.indexes.map fun (i : Index) =>
      if i.schema == t.schema && sameName i.table old then
        { i with table := new, sql := i.sql.map fun s => renameInText s "ON" old new }
      else i
    triggers := db.triggers.map fun (tr : Trigger) =>
      if sameName tr.table old then { tr with table := new, sql := renameInText tr.sql "ON" old new } else tr
    views := db.views.map fun (v : View) => { v with query := Select.renameSource old new 64 v.query } }
  let db := match db.tableIn? t.schema sequenceTableName with
    | some s => db.putTable { s with rows := s.rows.map fun ((id, vs) : Int × List Value) =>
        match vs with
        | .text b :: rest => if b == old.toUTF8.toList then (id, .ofString new :: rest) else (id, vs)
        | _ => (id, vs) }
    | none => db
  pure { db with written := true }

/-- Renames a column of a table, in its text, its checks and its indexes. -/
def renameColumn (db : Database) (t : Table) (old new : String) : Except SqlError Database := do
  let some i := t.columnIndex? old | throw (.unsupported ("no such column: \"" ++ old ++ "\""))
  if (t.columnIndex? new).isSome then throw (.duplicateColumn new)
  let rename (q : Option String) (n : String) (_ : Nat) : Option Expr :=
    if sameName n old && (q.isNone || q.any (sameName · t.name)) then some (.column q new 0) else none
  let textOf (sql : String) : String :=
    let tokens := tokenize sql
    tokens.reverse.foldl (fun s tok => match tok.kind with
      | .word w => if sameName w old then spliceText s tok.offset tok.stop new else s
      | .quoted w => if sameName w old then spliceText s tok.offset tok.stop (quoteName new) else s
      | _ => s) sql
  let renamed := { t with
    columns := t.columns.modify i fun c => { c with name := new }
    checks := t.checks.map fun c => { c with condition := c.condition.mapColumns rename true }
    sql := textOf t.sql }
  pure { (db.putTable renamed) with
    indexes := db.indexes.map fun x =>
      if x.schema == t.schema && sameName x.table t.name then
        { x with columns := x.columns.map fun c => if sameName c old then new else c,
                 sql := x.sql.map textOf }
      else x
    written := true }

/-- Whether a default value is a constant: a literal, maybe signed, or one in
parentheses. -/
def isConstantDefault : Expr → Bool
  | .literal _ => true
  | .unary _ e => isConstantDefault e
  | _ => false

/-- Adds a column at the end of a table; the rows there are take its default. -/
def addColumn (db : Database) (t : Table) (c : ColumnDef) (text : String) : Except SqlError Database := do
  if c.primaryKey then throw (.unsupported "Cannot add a PRIMARY KEY column")
  if c.unique then throw (.unsupported "Cannot add a UNIQUE column")
  if (t.columnIndex? c.name).isSome then throw (.duplicateColumn c.name)
  let default ← match c.default with
    | some e =>
      if !isConstantDefault e then throw (.unsupported "Cannot add a column with non-constant default")
      e.eval [] []
    | none => pure .null
  if c.notNull && default.isNull then
    throw (.unsupported "Cannot add a NOT NULL column with default value NULL")
  let collation ← match c.collation with
    | some n => match Collation.ofName? n with
      | some coll => pure coll
      | none => throw (SqlError.noSuchCollation n)
    | none => pure .binary
  let aff := Affinity.ofDeclared c.declaredType
  let column : Column := { name := c.name, declaredType := c.declaredType, affinity := aff,
                           notNull := c.notNull, default := c.default, collation }
  let insert := ", " ++ text
  pure { (db.putTable { t with
      columns := t.columns ++ [column]
      rows := t.rows.map fun (id, vs) => (id, vs ++ [default.withAffinity aff])
      checks := t.checks ++ c.checks
      sql := spliceText t.sql t.columnsEnd t.columnsEnd insert
      columnsEnd := t.columnsEnd + insert.utf8ByteSize }) with written := true }

/-- Drops a column that no key, index or other column needs. -/
def dropColumn (db : Database) (t : Table) (name : String) : Except SqlError Database := do
  let some i := t.columnIndex? name | throw (.unsupported ("no such column: \"" ++ name ++ "\""))
  if t.primaryKey.contains i || t.rowidColumn == some i then
    throw (.unsupported ("cannot drop PRIMARY KEY column: \"" ++ name ++ "\""))
  if t.uniqueKeys.any (·.contains i) then
    throw (.unsupported ("cannot drop UNIQUE column: \"" ++ name ++ "\""))
  if t.columns.length ≤ 1 then
    throw (.unsupported ("cannot drop column \"" ++ name ++ "\": no other columns exist"))
  let shift (k : Nat) : Nat := if k > i then k - 1 else k
  pure { (db.putTable { t with
      columns := t.columns.eraseIdx i
      rows := t.rows.map fun (id, vs) => (id, vs.eraseIdx i)
      rowidColumn := t.rowidColumn.map shift
      uniqueKeys := t.uniqueKeys.map (·.map shift)
      primaryKey := t.primaryKey.map shift }) with written := true }

/-- Runs `ALTER TABLE`. -/
def alterTable (db : Database) (table : String) (schema : Option String) (action : AlterAction) :
    Except SqlError Database := do
  let t ← db.alterTarget schema table
  match action with
  | .renameTable new => db.renameTable t new
  | .renameColumn old new => db.renameColumn t old new
  | .addColumn c text => db.addColumn t c text
  | .dropColumn n => db.dropColumn t n

/-- Attaches another, empty database under a schema name. -/
def attach (db : Database) (file : Expr) (schema : String) : Except SqlError Database := do
  let _ ← file.eval [] []
  if db.searchOrder.any (sameName · schema) then
    throw (.unsupported ("database " ++ schema ++ " is already in use"))
  if db.attached.length ≥ 10 then throw (.unsupported "too many attached databases - max 10")
  pure { db with attached := db.attached ++ [schema] }

/-- Detaches a schema with its objects. -/
def detach (db : Database) (schema : String) : Except SqlError Database := do
  if sameName schema "main" || sameName schema "temp" then
    throw (.unsupported ("cannot detach database " ++ schema))
  match db.attached.find? (sameName · schema) with
  | none => throw (.unsupported ("no such database: " ++ schema))
  | some s =>
    pure { db with
      attached := db.attached.filter (· != s)
      tables := db.tables.filter (·.schema != s)
      views := db.views.filter (·.schema != s)
      indexes := db.indexes.filter (·.schema != s)
      triggers := db.triggers.filter (·.schema != s) }

/-- The statistics of an index: the number of rows, then for each prefix of
its columns the average number of rows that share values on it, rounded up,
and 2 taken as 1 when nearly every row has values of its own. -/
def indexStat (t : Table) (i : Index) : String :=
  let positions := i.columns.filterMap t.columnIndex?
  let n := t.rows.length
  let averages := (List.range positions.length).map fun k =>
    let key := positions.take (k + 1)
    let colls := key.map fun j => (t.columns[j]?.map (·.collation)).getD .binary
    let values := t.rows.map fun (_, vs) => key.map fun j => vs.getD j .null
    let distinct := values.foldl (fun (acc : List (List Value)) v =>
      if acc.any fun w => (v.zip w).zipIdx.all fun ((x, y), j) => x.compareWith (colls.getD j .binary) y == .eq
      then acc else acc ++ [v]) []
    let average := (n + distinct.length - 1) / max distinct.length 1
    if average == 2 && n * 10 ≤ distinct.length * 11 then 1 else average
  " ".intercalate (toString n :: averages.map toString)

/-- Runs `ANALYZE`: makes the statistics tables of the main schema if they are
missing, and fills the first with a row per index of each table that has rows
(a row for the table itself when it has no index), the newest tables first. -/
def analyze (db : Database) : Database :=
  let db := if (db.tableIn? "main" "sqlite_stat1").isNone then
      db.addTable "main" (systemTable "sqlite_stat1" ["tbl", "idx", "stat"])
    else db
  let db := if (db.tableIn? "main" "sqlite_stat4").isNone then
      db.addTable "main" (systemTable "sqlite_stat4" ["tbl", "idx", "neq", "nlt", "ndlt", "sample"])
    else db
  let tables := ((db.tables.filter fun t => t.schema == "main" && !isReservedName t.name).mergeSort
    fun a b => a.stamp ≥ b.stamp).filter (!·.rows.isEmpty)
  let entries := tables.flatMap fun t =>
    match (db.indexesOn t).reverse with
    | [] => [[Value.ofString t.name, .null, .ofString (toString t.rows.length)]]
    | is => is.map fun i => [Value.ofString t.name, .ofString i.name, .ofString (indexStat t i)]
  match db.tableIn? "main" "sqlite_stat1" with
  | some s => { (db.putTable { s with rows := entries.zipIdx.map fun (r, k) => ((k + 1 : Nat), r) }) with
                written := true }
  | none => db

end Database

end Timeline.Sql
