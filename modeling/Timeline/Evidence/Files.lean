import Timeline.Sql.Database
/-!
# Evidence files

The files a command reads are seen through `Files`: what a path names, a file
of bytes, a database or a directory, or why it cannot be opened.

A `Tree` is such a view built from named entries below the working directory.
A path that leads into an entry names the directories on its way, so a file
`a/b` makes `a` a directory, and the working directory itself is one. Its
paths are read as the operating system reads them: parts are separated by `/`;
an empty part and `.` stay where they are and `..` goes to the parent. Every
part before the last must be a directory: a missing one is `notFound`, a file
is `notADirectory`, and so is a file followed by a trailing `/`. The tree holds
only what lies below the working directory. An absolute path starts at the
root, where only the null device `/dev/null` is known: it reads as an empty
file. A relative path that climbs above the working directory reaches a
directory that is known to hold nothing.

A database is the file a database engine keeps: once anything has been
written to it, it begins with the 16-byte header `SQLite format 3` and a zero
byte; before that it is an empty file.
-/

namespace Timeline

/-- Why a file could not be read, as the operating system reports it. -/
inductive IoError where
  | notFound
  | isDirectory
  | notADirectory
  /-- Any other failure, with the system's text for it. -/
  | other (message : String)
  deriving DecidableEq, Repr

/-- The operating system's text for an error, with its number. -/
def IoError.message : IoError → String
  | .notFound => "No such file or directory (os error 2)"
  | .isDirectory => "Is a directory (os error 21)"
  | .notADirectory => "Not a directory (os error 20)"
  | .other m => m

/-- What a path names. -/
inductive Entry where
  | bytes (content : ByteArray)
  | database (db : Sql.Database)
  | directory

/-- The header that opens every database file. -/
def databaseHeader : List UInt8 := "SQLite format 3".toUTF8.toList ++ [0]

/-- The files a command can read: what each path names, or why it cannot be opened. -/
structure Files where
  open? : String → Except IoError Entry

/-- Files as named entries below the working directory, each under the parts of its path. -/
structure Tree where
  entries : List (List String × Entry) := []

/-- Where a walk along a path stands: a directory below the working directory,
by its parts; a directory under the root, by its parts; or a directory above
the working directory. -/
inductive Place where
  | inside (parts : List String)
  | system (parts : List String)
  | outside

/-- What is known under the root: the directory `/dev` and the null device in it. -/
def systemEntry : List String → Option Entry
  | [] => some .directory
  | ["dev"] => some .directory
  | ["dev", "null"] => some (.bytes ByteArray.empty)
  | _ => none

namespace Tree

/-- The entry under exactly these parts; parts that lead into an entry name a directory. -/
def at? (t : Tree) (parts : List String) : Option Entry :=
  match t.entries.find? (·.1 == parts) with
  | some (_, e) => some e
  | none =>
    if parts.isEmpty || t.entries.any (fun (p, _) => parts.length < p.length && parts.isPrefixOf p)
    then some .directory else none

/-- Walks the parts of a path from a directory to what they name. -/
def walk (t : Tree) : Place → List String → Except IoError (Option Entry)
  | .outside, [] => .ok (some .directory)
  | .system here, [] => .ok (systemEntry here)
  | .inside here, [] => .ok (t.at? here)
  | place, "" :: rest | place, "." :: rest => t.walk place rest
  | .inside here, ".." :: rest => t.walk (if here.isEmpty then .outside else .inside here.dropLast) rest
  | .system here, ".." :: rest => t.walk (.system here.dropLast) rest
  | .outside, ".." :: rest => t.walk .outside rest
  | .outside, _ :: _ => .error .notFound
  | .system here, part :: rest =>
    match systemEntry (here ++ [part]) with
    | none => .error .notFound
    | some .directory => t.walk (.system (here ++ [part])) rest
    | some e => if rest.isEmpty then .ok (some e) else .error .notADirectory
  | .inside here, part :: rest =>
    match t.at? (here ++ [part]) with
    | none => .error .notFound
    | some .directory => t.walk (.inside (here ++ [part])) rest
    | some e => if rest.isEmpty then .ok (some e) else .error .notADirectory

/-- What a path names in the tree. -/
def open? (t : Tree) (path : String) : Except IoError Entry :=
  let start := if path.startsWith "/" then Place.system [] else .inside []
  if path.isEmpty then .error .notFound
  else
    match t.walk start (path.splitOn "/") with
    | .ok (some e) => .ok e
    | .ok none => .error .notFound
    | .error e => .error e

/-- The files of a tree. -/
def files (t : Tree) : Files :=
  ⟨t.open?⟩

end Tree

/-- Whether a path names a file (not a directory). -/
def Files.isFile (fs : Files) (path : String) : Bool :=
  match fs.open? path with
  | .ok .directory => false
  | .ok _ => true
  | .error _ => false

/-- The bytes of a file entry as its reader sees them: a database never
written to is empty, one written to shows its header. -/
def Entry.content : Entry → List UInt8
  | .bytes b => b.toList
  | .database db => if db.written then databaseHeader else []
  | .directory => []

/-- The length of a file in bytes, as its metadata gives it. -/
def Entry.size : Entry → Nat
  | .bytes b => b.size
  | .database db => if db.written then 4096 else 0
  | .directory => 4096

namespace Files

/-- The bytes of a file, read whole. -/
def read (fs : Files) (path : String) : Except IoError (List UInt8) := do
  match ← fs.open? path with
  | .directory => throw .isDirectory
  | e => pure e.content

/-- Whether a file begins with the database header; a file shorter than the
header does not. -/
def startsAsDatabase (fs : Files) (path : String) : Except IoError Bool := do
  let header ← match ← fs.open? path with
    | .directory => throw .isDirectory
    | .bytes b => pure (b.extract 0 databaseHeader.length).toList
    | e => pure (e.content.take databaseHeader.length)
  pure (header == databaseHeader)

/-- The length of a file in bytes. -/
def size (fs : Files) (path : String) : Except IoError Nat := do
  pure (← fs.open? path).size

end Files

end Timeline
