import Timeline.Line.Split
/-!
# Reading lines from a reader

Text evidence is read line by line from a reader of bytes. A reader delivers
its bytes and then either reports the end of the data or fails every further
read (`ByteReader`). Reading a line takes the bytes up to and including the
next line feed; a read that fails part way loses the bytes of the line it had
taken so far.

`TextLines` reads lines on demand and keeps the lines it has looked ahead at in
a buffer, in order, until they are handed out. It numbers the lines as it reads
them, drops a line feed and the carriage return before it, drops the byte
order mark of line 1, and decodes the bytes. Once the data has ended it reads
no more.

`TextLines.view` is what a reader still holds as a `LineSource`: the buffered
lines, then the lines of the bytes not yet read, and what happens after them.
-/

namespace Timeline

/-- A reader of bytes: what it still delivers, and then the end of the data
(`none`) or the failure of every further read. -/
structure ByteReader where
  bytes : List UInt8
  failure : Option ReadFailure := none
  deriving DecidableEq, Repr

namespace ByteReader

/-- Reads up to and including the next line feed, or to the end of the data. A
failure part way loses what was taken; the reader then fails every read. -/
def readUntilLineFeed (r : ByteReader) : Except ReadFailure (List UInt8) × ByteReader :=
  match r.bytes.dropWhile (· != lineFeed) with
  | _ :: after => (.ok (r.bytes.takeWhile (· != lineFeed) ++ [lineFeed]), { r with bytes := after })
  | [] =>
    match r.failure with
    | none => (.ok r.bytes, { r with bytes := [] })
    | some f => (.error f, { r with bytes := [] })

/-- A reader over a text, or over its first bytes when an interruption falls
within it. -/
def ofBytes (bytes : List UInt8) (cut : Option Interruption := none) : ByteReader :=
  match cut with
  | some c => if c.after ≤ bytes.length then { bytes := bytes.take c.after, failure := some c.failure }
    else { bytes }
  | none => { bytes }

/-- The lines a reader still delivers, numbered from `first`: those of its bytes,
where a failure loses the last one when no line feed ends it. -/
def lines (r : ByteReader) (first : Nat) : List Line :=
  numberLines first <|
    match r.failure with
    | none => cutLines r.bytes
    | some _ => (cutLines r.bytes).filter (·.2)

end ByteReader

/-- The line of the bytes read for line `number`: a line feed at the end is
dropped, and then a carriage return before it; the byte order mark is dropped
from line 1; the bytes are decoded. -/
def Line.ofRead (number : Nat) (bytes : List UInt8) : Line :=
  pieceLine number <|
    if bytes.getLast? == some lineFeed then (bytes.dropLast, true) else (bytes, false)

/-- A reader of lines with a buffer of the lines it has looked ahead at. -/
structure TextLines where
  reader : ByteReader
  buffered : List Line := []
  /-- The number of the last line read. -/
  lineNumber : Nat := 0
  /-- Whether the data has ended. -/
  exhausted : Bool := false
  deriving DecidableEq, Repr

namespace TextLines

/-- Reads the next line from the reader; `none` once the data has ended. -/
def readLine (t : TextLines) : Except SourceError (Option Line) × TextLines :=
  if t.exhausted then (.ok none, t)
  else
    match t.reader.readUntilLineFeed with
    | (.error f, reader) => (.error f.toSourceError, { t with reader })
    | (.ok [], reader) => (.ok none, { t with reader, exhausted := true })
    | (.ok bytes, reader) =>
      (.ok (some (Line.ofRead (t.lineNumber + 1) bytes)),
        { t with reader, lineNumber := t.lineNumber + 1 })

/-- Hands out the first buffered line, or else reads one. -/
def nextLine (t : TextLines) : Except SourceError (Option Line) × TextLines :=
  match t.buffered with
  | l :: rest => (.ok (some l), { t with buffered := rest })
  | [] => t.readLine

/-- Reads `count` more lines into the buffer: `false` when the data ends first. -/
def fill : Nat → TextLines → Except SourceError Bool × TextLines
  | 0, t => (.ok true, t)
  | count + 1, t =>
    match t.readLine with
    | (.ok (some l), t') => fill count { t' with buffered := t'.buffered ++ [l] }
    | (.ok none, t') => (.ok false, t')
    | (.error e, t') => (.error e, t')

/-- Shows the line `offset` places ahead, reading into the buffer until it holds
that line. -/
def peekLine (t : TextLines) (offset : Nat) : Except SourceError (Option Line) × TextLines :=
  match t.fill (offset + 1 - t.buffered.length) with
  | (.ok true, t') => (.ok t'.buffered[offset]?, t')
  | (.ok false, t') => (.ok none, t')
  | (.error e, t') => (.error e, t')

/-- A reader of lines as sequential access. -/
def access : LineAccess TextLines where
  next := nextLine
  peek := peekLine

/-- A reader of the lines of a text, or of its first bytes when an
interruption falls within it. -/
def ofBytes (bytes : List UInt8) (cut : Option Interruption := none) : TextLines :=
  { reader := .ofBytes bytes cut }

/-- The lines not yet read: none once the data has ended, else the lines of the
reader's bytes, numbered on from the last line read. -/
def unread (t : TextLines) : List Line :=
  if t.exhausted then [] else t.reader.lines (t.lineNumber + 1)

/-- What reading past the unread lines gives: the end of the data, or the
reader's failure. -/
def failure (t : TextLines) : Option SourceError :=
  if t.exhausted then none else t.reader.failure.map ReadFailure.toSourceError

/-- What a reader still holds: the buffered lines, then the unread ones, then
what follows them. -/
def view (t : TextLines) : LineSource :=
  { pending := t.buffered ++ t.unread, failure := t.failure }

end TextLines

end Timeline
