import Timeline.Sql.Exec
/-!
# Database files

A database file is a sequence of equal-sized pages. The first hundred bytes of
the first page are the file header: the text `SQLite format 3` and a zero
byte, the page size (a power of two from 512 to 65536, where `1` stands for
65536), the bytes kept free at the end of each page, the fixed payload
fractions 64, 32 and 32, the number of pages, and the text encoding.

Every table is a b-tree of pages: interior pages point to the pages below
them, leaf pages hold cells, one per row, each with the row id and the row's
record. A record that does not fit in its page continues on a chain of
overflow pages. A record is a header of serial types, one per column, then
the column values: null, integers of 1, 2, 3, 4, 6 or 8 bytes, a binary64
float, the constants 0 and 1, or a blob or text of a given length.

The first page's b-tree is the schema table: a row per table, index, view and
trigger, with the statement that created it. `readImage` reads the tables and
views back into a `Database` by running those statements and filling each
table with its rows, in row-id order. A record shorter than its table takes
the column defaults for the missing columns; the row-id column takes the row
id.

A file whose header is not one of a database is "not a database"; a file
whose pages do not hold what the header promises is malformed.
-/

namespace Timeline.Sql

/-- The bytes of a database file with what its header says about them. -/
structure Image where
  bytes : ByteArray
  pageSize : Nat
  /-- The bytes of a page that hold data. -/
  usable : Nat
  pages : Nat
  /-- 1 for UTF-8, 2 for UTF-16 little-endian, 3 for UTF-16 big-endian. -/
  encoding : Nat

/-- The byte at an offset; zero past the end. -/
def byteOf (bs : ByteArray) (i : Nat) : Nat :=
  (bs.data[i]?.getD 0).toNat

/-- The big-endian unsigned integer of `n` bytes at an offset. -/
def bigEndian (bs : ByteArray) (i n : Nat) : Nat :=
  (List.range n).foldl (fun acc k => acc * 256 + byteOf bs (i + k)) 0

/-- A variable-length integer at an offset and the offset after it: up to
eight bytes of seven bits each, the high bit marking that more follow, and a
ninth byte of eight bits. -/
def varint (bs : ByteArray) (i : Nat) : Nat × Nat :=
  go 8 0 i
where
  go : Nat → Nat → Nat → Nat × Nat
    | 0, acc, j => (acc * 256 + byteOf bs j, j + 1)
    | n + 1, acc, j =>
      let b := byteOf bs j
      if b < 128 then (acc * 128 + b, j + 1) else go n (acc * 128 + (b - 128)) (j + 1)

/-- An unsigned integer of `bits` bits as a two's complement signed one. -/
def signed (bits n : Nat) : Int :=
  if n ≥ Nat.pow 2 (bits - 1) then (n : Int) - (Nat.pow 2 bits : Int) else n

/-- The header of a database file, checked: the image, or why the file is
not a database or is malformed. -/
def Image.ofBytes (bs : ByteArray) : Except SqlError Image := do
  let magic := "SQLite format 3".toUTF8.toList ++ [0]
  if (bs.extract 0 16).toList != magic then throw .notADatabase
  if byteOf bs 19 > 2 then throw .notADatabase
  if byteOf bs 21 != 64 || byteOf bs 22 != 32 || byteOf bs 23 != 32 then throw .notADatabase
  let pageSize := byteOf bs 16 * 256 + byteOf bs 17 * 65536
  if pageSize ≤ 256 || pageSize > 65536 || Nat.land pageSize (pageSize - 1) != 0 then
    throw .notADatabase
  let usable := pageSize - byteOf bs 20
  let inFile := (bs.size + pageSize - 1) / pageSize
  let declared := bigEndian bs 28 4
  let pages := if declared == 0 || bigEndian bs 24 4 != bigEndian bs 92 4 then inFile else declared
  if pages > inFile then throw .corrupt
  if usable < 480 then throw .notADatabase
  let encoding := match bigEndian bs 56 4 % 4 with
    | 0 => 1
    | e => e
  pure ⟨bs, pageSize, usable, pages, encoding⟩

namespace Image

/-- The offset of a page (numbered from one) in the file. -/
def pageStart (img : Image) (page : Nat) : Nat :=
  (page - 1) * img.pageSize

/-- The bytes of a record stored in a cell: the part in the page, then the
overflow pages in their chain, up to the record's size. -/
def payload (img : Image) (size start : Nat) : Except SqlError (List UInt8) := do
  let u := img.usable
  let maxLocal := u - 35
  let minLocal := (u - 12) * 32 / 255 - 23
  if size ≤ maxLocal then pure (img.bytes.extract start (start + size)).toList
  else
    let k := minLocal + (size - minLocal) % (u - 4)
    let here := if k ≤ maxLocal then k else minLocal
    let first := (img.bytes.extract start (start + here)).toList
    let rest ← chain (img.pages + 1) (bigEndian img.bytes (start + here) 4) (size - here) []
    pure (first ++ rest)
where
  chain : Nat → Nat → Nat → List UInt8 → Except SqlError (List UInt8)
    | 0, _, _, _ => throw .corrupt
    | fuel + 1, page, left, acc =>
      if left == 0 then pure acc
      else if page == 0 || page > img.pages then throw .corrupt
      else
        let base := img.pageStart page
        let take := min left (img.usable - 4)
        chain fuel (bigEndian img.bytes base 4) (left - take)
          (acc ++ (img.bytes.extract (base + 4) (base + 4 + take)).toList)

/-- The offsets of the cells of a b-tree page, from its cell pointers. -/
def cellOffsets (img : Image) (page : Nat) (header : Nat) : List Nat :=
  let base := img.pageStart page
  let count := bigEndian img.bytes (header + 3) 2
  let pointers := header + (if byteOf img.bytes header == 5 then 12 else 8)
  (List.range count).map fun k => base + bigEndian img.bytes (pointers + 2 * k) 2

/-- The rows of a table b-tree from a page down: row id and record bytes,
in row-id order. `fuel` bounds the depth. -/
def tableRows (img : Image) : Nat → Nat → Except SqlError (List (Int × List UInt8))
  | 0, _ => throw .corrupt
  | fuel + 1, page => do
    if page == 0 || page > img.pages then throw .corrupt
    let header := img.pageStart page + (if page == 1 then 100 else 0)
    let kind := byteOf img.bytes header
    let cells := img.cellOffsets page header
    if kind == 13 then
      cells.mapM fun c => do
        let (size, c1) := varint img.bytes c
        let (rowid, c2) := varint img.bytes c1
        pure (signed 64 rowid, ← img.payload size c2)
    else if kind == 5 then
      let children := cells.map (bigEndian img.bytes · 4) ++ [bigEndian img.bytes (header + 8) 4]
      let parts ← children.mapM (tableRows img fuel)
      pure parts.flatten
    else throw .corrupt

end Image

/-- UTF-16 code units as UTF-8 bytes; an unpaired surrogate stands for the
replacement character. -/
def utf16ToUtf8 : List Nat → List UInt8
  | [] => []
  | [u] => unit u
  | u :: rest@(v :: more) =>
    if 0xD800 ≤ u && u < 0xDC00 && 0xDC00 ≤ v && v < 0xE000 then
      (Char.ofNat (0x10000 + (u - 0xD800) * 1024 + (v - 0xDC00))).toString.toUTF8.toList ++
        utf16ToUtf8 more
    else unit u ++ utf16ToUtf8 rest
where
  unit (u : Nat) : List UInt8 :=
    if 0xD800 ≤ u && u < 0xE000 then "\uFFFD".toUTF8.toList else (Char.ofNat u).toString.toUTF8.toList

/-- The code units of UTF-16 bytes, little- or big-endian. -/
def utf16Units (littleEndian : Bool) : List UInt8 → List Nat
  | a :: b :: rest =>
    (if littleEndian then b.toNat * 256 + a.toNat else a.toNat * 256 + b.toNat) :: utf16Units littleEndian rest
  | _ => []

/-- The value of a column of a record, by its serial type. -/
def serialValue (encoding : Nat) (type : Nat) (body : List UInt8) : Except SqlError Value :=
  let n := fun (k : Nat) => body.take k |>.foldl (fun acc b => acc * 256 + b.toNat) 0
  match type with
  | 0 => .ok .null
  | 1 => .ok (.integer (signed 8 (n 1)))
  | 2 => .ok (.integer (signed 16 (n 2)))
  | 3 => .ok (.integer (signed 24 (n 3)))
  | 4 => .ok (.integer (signed 32 (n 4)))
  | 5 => .ok (.integer (signed 48 (n 6)))
  | 6 => .ok (.integer (signed 64 (n 8)))
  | 7 => .ok (.real (Float.ofBits (n 8).toUInt64))
  | 8 => .ok (.integer 0)
  | 9 => .ok (.integer 1)
  | 10 | 11 => .error .corrupt
  | t =>
    let bytes := body.take ((t - 12) / 2)
    if t % 2 == 0 then .ok (.blob bytes)
    else if encoding == 1 then .ok (.text bytes)
    else .ok (.text (utf16ToUtf8 (utf16Units (encoding == 2) bytes)))

/-- The number of bytes of a value of a serial type. -/
def serialSize : Nat → Nat
  | 0 | 8 | 9 | 10 | 11 => 0
  | 1 => 1
  | 2 => 2
  | 3 => 3
  | 4 => 4
  | 5 => 6
  | 6 | 7 => 8
  | t => (t - 12) / 2

/-- The serial types of a record header, from an offset to its end. -/
def serialTypes (bs : ByteArray) : Nat → Nat → List Nat
  | 0, _ => []
  | fuel + 1, i =>
    if i ≥ bs.size then []
    else
      let (t, j) := varint bs i
      t :: serialTypes bs fuel j

/-- The values of a record. -/
def recordValues (encoding : Nat) (record : List UInt8) : Except SqlError (List Value) := do
  let bs := ByteArray.mk record.toArray
  let (headerSize, start) := varint bs 0
  if headerSize > record.length || headerSize < start then throw .corrupt
  let types := serialTypes (bs.extract start headerSize) headerSize 0
  let (values, _) ← types.foldlM (fun (acc : List Value × Nat) t => do
    let (vs, at_) := acc
    let size := serialSize t
    if at_ + size > record.length then throw .corrupt
    let v ← serialValue encoding t (record.drop at_ |>.take size)
    pure (vs ++ [v], at_ + size)) ([], headerSize)
  pure values

/-- A table's row from a record: the row-id column takes the row id, missing
trailing columns take their defaults, and a column of real affinity reads an
integer as a real. -/
def rowOfRecord (t : Table) (rowid : Int) (values : List Value) : Except SqlError (List Value) :=
  t.columns.zipIdx.mapM fun (c, i) => do
    if t.rowidColumn == some i then pure (.integer rowid)
    else
      let v ← match values[i]? with
        | some v => pure v
        | none => match c.default with
          | some e => (e.eval [] []).mapError fun _ => .corrupt
          | none => pure .null
      pure (if c.affinity == .real then v.withAffinity .real else v)

/-- The one statement of a schema entry's text. -/
def schemaStatement (sql : String) : Except SqlError Statement := do
  let r ← readStatement (textBytes sql) 0 (tokenize sql)
  pure r.statement

/-- The text of a value, as UTF-8 bytes decoded. -/
def Value.schemaText : Value → String
  | .text b => String.fromUTF8! ⟨b.toArray⟩
  | _ => ""

/-- Adds a schema entry to a database being read. -/
def addSchemaEntry (img : Image) (db : Database) (entry : List Value) : Except SqlError Database := do
  let kind := (entry[0]?.map Value.schemaText).getD ""
  let root := match entry[3]? with
    | some (Value.integer n) => n.toNat
    | _ => 0
  let sql := match entry[4]? with
    | some v@(Value.text _) => some v.schemaText
    | _ => none
  match kind, sql with
  | "table", some sql =>
    match schemaStatement sql with
    | .ok (.createTable d) => do
      let t ← d.toTable
      let records ← img.tableRows (img.pages + 1) root
      let rows ← records.mapM fun (id, record) => do
        pure (id, ← rowOfRecord t id (← recordValues img.encoding record))
      pure { db with tables := db.tables ++ [{ t with rows }] }
    | _ => pure db
  | "view", some sql =>
    match schemaStatement sql with
    | .ok s => pure ((db.run s).toOption.getD db)
    | .error _ => pure db
  | "index", some sql =>
    match schemaStatement sql with
    | .ok s => pure ((db.run s).toOption.getD db)
    | .error _ => pure db
  | _, _ => pure db

/-- The database a file holds. -/
def readImage (bs : ByteArray) : Except SqlError Database := do
  let img ← Image.ofBytes bs
  let records ← img.tableRows (img.pages + 1) 1
  let entries ← records.mapM fun (_, record) => recordValues img.encoding record
  let db ← entries.foldlM (addSchemaEntry img) {}
  pure { db with written := true }

end Timeline.Sql
