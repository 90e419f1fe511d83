import Timeline.Row.Basic
import Timeline.Number.Plain
import Timeline.Number.Integral
import Timeline.Text.Quoted
import Timeline.Text.Utf8
/-!
# Reading cells into fields

A cell is read into a record field according to the kind of its column. A null
cell gives no field. Otherwise:

* integers are read from integer cells, or from text cells whose trimmed text
  is a 64-bit integer;
* texts are text cells, integers and reals written in decimal, or blobs that
  are valid UTF-8;
* truth values are the integers 0 and 1;
* POSIX and Java times are integers of seconds and milliseconds;
* WebKit times are integers of microseconds, zero meaning never;
* Cocoa times are seconds, integer, real or text, rounded to whole microseconds.

A cell of another kind is reported with a reason naming what was found.
-/

namespace Timeline

open Time

/-- An integer cell, or a text that is one. -/
def Scalar.toInteger : Scalar → Except String Int
  | .integer n => .ok n
  | .text s =>
    match Number.readInt64? (Text.trim s) with
    | some n => .ok n
    | none => .error ("expected integer, found text " ++ Text.quote s)
  | other => .error ("expected integer, found " ++ other.storageClass)

/-- A text cell, or the text of a number or of a UTF-8 blob. -/
def Scalar.toText : Scalar → Except String String
  | .text s => .ok s
  | .integer n => .ok (Text.decimal n)
  | .real x => .ok (Number.plainText x)
  | .blob bytes =>
    if Text.isValidUtf8 bytes then .ok (Text.decodeLossy bytes)
    else .error "expected text, found non UTF-8 blob"
  | .null => .error "expected text, found null"

/-- The microseconds past 2001 of a cell of Cocoa seconds. -/
def Scalar.cocoaMicros : Scalar → Except String Int
  | .integer n =>
    let micros := n * 1000000
    if Number.int64Min ≤ micros ∧ micros ≤ Number.int64Max then .ok micros
    else .error ("seconds out of range: " ++ Text.decimal n)
  | .real x => ofSeconds x
  | .text s =>
    match Number.readFloat? (Text.trim s) with
    | some x => ofSeconds x
    | none => .error ("expected number, found text " ++ Text.quote s)
  | other => .error ("expected number, found " ++ other.storageClass)
where
  /-- Seconds rounded to microseconds, within nine quintillion microseconds. -/
  ofSeconds (seconds : Float) : Except String Int :=
    let micros := (seconds * 1000000).round
    if micros.isNaN || micros.isInf || micros.abs ≥ 9.0e18 then
      .error ("seconds out of range: " ++ Number.plainText seconds)
    else .ok (Number.integerPart micros)

/-- The field a cell gives, if any, for a column of a kind. -/
def ColumnKind.coerce (kind : ColumnKind) (value : Scalar) : Except String (Option FieldValue) :=
  match value with
  | .null => .ok none
  | _ =>
    match kind with
    | .int => (some ∘ .int) <$> value.toInteger
    | .text => (some ∘ .str) <$> value.toText
    | .bool => do
      match ← value.toInteger with
      | 0 => pure (some (.bool false))
      | 1 => pure (some (.bool true))
      | n => throw ("expected 0 or 1, found " ++ Text.decimal n)
    | .posixTime => (some ∘ .time ∘ .epochSeconds) <$> value.toInteger
    | .javaTime => (some ∘ .time ∘ .epochMillis) <$> value.toInteger
    | .webkitTime => do
      match ← value.toInteger with
      | 0 => pure none
      | n => pure (some (.time (.webkitMicros n)))
    | .cocoaTime => (some ∘ .time ∘ .cocoaMicros) <$> value.cocoaMicros

/-- `column=value` for each declared column, joined by commas: integers in
decimal, reals in plain decimal, texts quoted, blobs by size, `NULL`, or
`<missing>` for a column the row lacks. -/
def describeRow (columns : List ColumnSpec) (row : Row) : String :=
  ", ".intercalate <| columns.map fun spec =>
    spec.column ++ "=" ++
      match row spec.column with
      | none => "<missing>"
      | some .null => "NULL"
      | some (.integer n) => Text.decimal n
      | some (.real x) => Number.plainText x
      | some (.text s) => Text.quote s
      | some (.blob bytes) => "<" ++ toString bytes.length ++ " bytes>"

end Timeline
