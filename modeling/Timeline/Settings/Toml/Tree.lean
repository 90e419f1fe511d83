import Timeline.Settings.Toml.Lexical
import Timeline.Settings.Value
/-!
# Tables of a configuration file

A configuration file builds a tree of tables. A key and value line sets the
value in the table of the last header, under its dotted key; a header
`[a.b]` starts a table and `[[a.b]]` a new element of an array of tables.

The tree remembers how each table came to be, because the format allows a
table to be defined once only:

* a table is *implicit* when only a longer key or header made it (`a` in
  `[a.b]` or in `a.b = 1`); a header may later define an implicit table that
  a header made, but not one that dotted keys made;
* a table is *dotted* when dotted keys made it; dotted keys may add to such a
  table only, never to one that a header defined;
* a value that is not a table cannot be extended by dotted keys or headers.

The table of the current header is kept apart from the tree until the next
header, as the format's reading order defines: the duplicate checks of a line
look at that table only.
-/

namespace Timeline.Settings.Toml

/-- A node of the tree. -/
inductive Node where
  /-- A value that is not a table, and the name of its kind. -/
  | leaf (v : Value) (kind : String)
  /-- An inline table. -/
  | inline (implicit dotted : Bool) (entries : List (String × Node))
  /-- A table that a header or a dotted key made. -/
  | table (implicit dotted : Bool) (entries : List (String × Node))
  /-- An array of tables, an element per header. -/
  | tables (elements : List (List (String × Node)))

/-- The entries of a table. -/
abbrev Entries := List (String × Node)

mutual

/-- A node as a setting value. -/
def Node.toValue : Node → Value
  | .leaf v _ => v
  | .inline _ _ es => .table (entriesValue es)
  | .table _ _ es => .table (entriesValue es)
  | .tables els => .array (elementsValue els)

/-- Entries as setting values. -/
def entriesValue : List (String × Node) → List (String × Value)
  | [] => []
  | (k, n) :: rest => (k, n.toValue) :: entriesValue rest

/-- The elements of an array of tables as setting values. -/
def elementsValue : List (List (String × Node)) → List Value
  | [] => []
  | es :: rest => .table (entriesValue es) :: elementsValue rest

end

/-- The node under a name. -/
def findEntry (name : String) (es : Entries) : Option Node :=
  (es.find? (·.1 == name)).map (·.2)

/-- Sets the node under a name, in place when the name is there. -/
def setEntry (name : String) (n : Node) (es : Entries) : Entries :=
  if es.any (·.1 == name) then es.map fun e => if e.1 == name then (name, n) else e
  else es ++ [(name, n)]

/-- Removes the node under a name. -/
def removeEntry (name : String) (es : Entries) : Entries :=
  es.filter (·.1 != name)

/-- The message of a key defined twice, with the table it is in when known. -/
def duplicateKey (name : String) (table : Option (List String)) : String :=
  "duplicate key `" ++ name ++ "`" ++
    match table with
    | none => ""
    | some [] => " in document root"
    | some path => " in table `" ++ ".".intercalate path ++ "`"

/-- The message of a header whose last key is defined already. -/
def headerDuplicate (path : List KeyPart) : String :=
  match path.getLast? with
  | some last => duplicateKey last.raw (some (path.dropLast.map (·.name)))
  | none => ""

/-- The message of dotted keys that reach a value that is not a table. -/
def extendsValue (path : List KeyPart) (kind : String) : String :=
  "dotted key `" ++ ".".intercalate (path.map (·.name)) ++
    "` attempted to extend non-table type (" ++ kind ++ ")"

/-- Goes down a key path from a table, making implicit tables where names are
missing (dotted ones when `dotted`), and applies a change to the table at the
end, which is told whether that table is dotted. An array of tables is entered
at its last element. -/
def descend {α : Type} (dotted : Bool) (whole : List KeyPart)
    (change : Bool → Entries → Except String (Entries × α)) :
    Nat → List KeyPart → Bool → Entries → Except String (Entries × α)
  | _, [], flag, es => change flag es
  | i, p :: ps, _, es =>
    match findEntry p.name es with
    | none => do
      let (inner, a) ← descend dotted whole change (i + 1) ps dotted []
      pure (setEntry p.name (.table true dotted inner) es, a)
    | some (.leaf _ kind) => .error (extendsValue (whole.take (i + 1)) kind)
    | some (.inline _ _ _) => .error (extendsValue (whole.take (i + 1)) "inline table")
    | some (.tables els) => do
      let (inner, a) ← descend dotted whole change (i + 1) ps false (els.getLast?.getD [])
      pure (setEntry p.name (.tables (els.dropLast ++ [inner])) es, a)
    | some (.table implicit d inner) =>
      if dotted && !implicit then .error (duplicateKey p.name none)
      else do
        let (inner, a) ← descend dotted whole change (i + 1) ps d inner
        pure (setEntry p.name (.table implicit d inner) es, a)

/-- The same descent inside an inline table, where every table on the way is
an inline table made by dotted keys. -/
def descendInline {α : Type} (whole : List KeyPart)
    (change : Bool → Entries → Except String (Entries × α)) :
    Nat → List KeyPart → Bool → Entries → Except String (Entries × α)
  | _, [], flag, es => change flag es
  | i, p :: ps, _, es =>
    match findEntry p.name es with
    | none => do
      let (inner, a) ← descendInline whole change (i + 1) ps true []
      pure (setEntry p.name (.inline true true inner) es, a)
    | some (.inline implicit d inner) =>
      if !implicit then .error (duplicateKey p.name none)
      else do
        let (inner, a) ← descendInline whole change (i + 1) ps d inner
        pure (setEntry p.name (.inline implicit d inner) es, a)
    | some (.leaf _ kind) => .error (extendsValue (whole.take (i + 1)) kind)
    | some _ => .error (extendsValue (whole.take (i + 1)) "table")

/-- Sets a value under a dotted key in a table: the table reached must be
dotted exactly when the key is, and must not have the name yet. -/
def placeValue (path : List KeyPart) (name : String) (v : Node) (table : Option (List String))
    (dotted : Bool) (es : Entries) : Except String (Entries × Unit) :=
  if dotted == path.isEmpty then .error (duplicateKey name none)
  else if (findEntry name es).isSome then .error (duplicateKey name table)
  else .ok (setEntry name v es, ())

/-- An inline table from its key and value pairs, in order. -/
def inlineTable (pairs : List (List KeyPart × KeyPart × Node)) : Except String Entries :=
  pairs.foldlM (fun es (path, k, v) => do
    let (es, ()) ← descendInline path (placeValue path k.name v none) 0 path false es
    pure es) []

/-- A document being read: the tree without the current table, the current
table, its header's key (empty before the first header) and whether that
header starts an element of an array of tables. -/
structure Sheet where
  root : Entries := []
  current : Entries := []
  path : List KeyPart := []
  isArray : Bool := false

namespace Sheet

/-- Sets a value under a dotted key in the current table. -/
def setValue (s : Sheet) (path : List KeyPart) (k : KeyPart) (v : Node) : Except String Sheet := do
  let (current, ()) ←
    descend true path (placeValue path k.name v (some (s.path.map (·.name)))) 0 path false s.current
  pure { s with current }

/-- Puts the current table into the tree. -/
def finish (s : Sheet) : Except String Sheet :=
  match s.path.getLast? with
  | none => .ok { root := s.current }
  | some last => do
    let parent := s.path.dropLast
    let place := fun (_ : Bool) (es : Entries) =>
      match findEntry last.name es, s.isArray with
      | none, true => .ok (setEntry last.name (.tables [s.current]) es, ())
      | some (.tables els), true => .ok (setEntry last.name (.tables (els ++ [s.current])) es, ())
      | none, false => .ok (setEntry last.name (.table false false s.current) es, ())
      | some (.table true _ _), false => .ok (setEntry last.name (.table false false s.current) es, ())
      | _, _ => .error (headerDuplicate s.path)
    let (root, ()) ← descend false parent place 0 parent false s.root
    pure { root }

/-- Starts the table of a header `[path]`: an implicit table that a header
made is taken over, any other node under the name is a duplicate. -/
def startTable (s : Sheet) (path : List KeyPart) : Except String Sheet := do
  let s ← s.finish
  let name := (path.getLast?.map (·.name)).getD ""
  let parent := path.dropLast
  let take := fun (_ : Bool) (es : Entries) =>
    match findEntry name es with
    | none => .ok (es, [])
    | some (.table true false inner) => .ok (removeEntry name es, inner)
    | some _ => .error (headerDuplicate path)
  let (root, current) ← descend false parent take 0 parent false s.root
  pure { root, current, path, isArray := false }

/-- Starts a new element of the array of tables `[[path]]`. -/
def startArrayTable (s : Sheet) (path : List KeyPart) : Except String Sheet := do
  let s ← s.finish
  let name := (path.getLast?.map (·.name)).getD ""
  let parent := path.dropLast
  let open_ := fun (_ : Bool) (es : Entries) =>
    match findEntry name es with
    | none => .ok (setEntry name (.tables []) es, ())
    | some (.tables _) => .ok (es, ())
    | some _ => .error (headerDuplicate path)
  let (root, ()) ← descend false parent open_ 0 parent false s.root
  pure { root, current := [], path, isArray := true }

end Sheet

end Timeline.Settings.Toml
