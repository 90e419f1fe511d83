import Timeline.Line.Basic
import Timeline.Text.Utf8
/-!
# Splitting bytes into lines

A text is cut after each line feed; a last piece without a line feed is a line
when it is not empty. The line feed is removed, and a carriage return just
before it. A byte order mark is removed from the first line only. A line's text
is its bytes decoded as UTF-8, invalid sequences replaced.

Evidence may be read through a reader that delivers only its first bytes and
then fails (`Interruption`): the lines complete within the delivered bytes are
read, a line cut off by the failure is lost, and every later read fails. A
read that fails because a pipe broke or a connection is gone closes the
source; any other failure is a read error.
-/

namespace Timeline

/-- The line feed byte. -/
def lineFeed : UInt8 := 10

/-- The pieces of a byte list cut after each line feed, without the line feed,
each marked with whether a line feed ended it; `acc` holds the bytes of the
current piece, last byte first. -/
def cutLinesFrom (acc : List UInt8) : List UInt8 → List (List UInt8 × Bool)
  | [] => if acc.isEmpty then [] else [(acc.reverse, false)]
  | b :: bs =>
    if b == lineFeed then (acc.reverse, true) :: cutLinesFrom [] bs
    else cutLinesFrom (b :: acc) bs

/-- The pieces of a byte list cut after each line feed. -/
def cutLines (bytes : List UInt8) : List (List UInt8 × Bool) :=
  cutLinesFrom [] bytes

/-- The byte order mark of UTF-8. -/
def byteOrderMark : List UInt8 := [0xEF, 0xBB, 0xBF]

/-- The line of a piece: the carriage return before a line feed removed, the
byte order mark removed from line 1, the bytes decoded. -/
def pieceLine (number : Nat) (piece : List UInt8 × Bool) : Line :=
  let body :=
    if piece.2 && piece.1.getLast? == some 13 then piece.1.dropLast else piece.1
  let body := if number == 1 && byteOrderMark.isPrefixOf body then body.drop 3 else body
  let (chars, valid) := Text.decodeUtf8 body
  { number, text := String.ofList chars, validUtf8 := valid }

/-- The lines of some pieces, numbered from `first`. -/
def numberLines (first : Nat) : List (List UInt8 × Bool) → List Line
  | [] => []
  | p :: ps => pieceLine first p :: numberLines (first + 1) ps

/-- The lines of a whole text. -/
def splitLines (bytes : List UInt8) : List Line :=
  numberLines 1 (cutLines bytes)

/-- How a read failed, as the reader reports it. -/
inductive ReadFailure where
  | brokenPipe
  | notConnected
  /-- Any other failure, with its description. -/
  | other (message : String)
  deriving DecidableEq, Repr

/-- The source error of a failed read: a broken pipe or a lost connection has
closed the source. -/
def ReadFailure.toSourceError : ReadFailure → SourceError
  | .brokenPipe | .notConnected => .closed
  | .other message => .io message

/-- A reader that fails after delivering its first `after` bytes. -/
structure Interruption where
  after : Nat
  failure : ReadFailure
  deriving DecidableEq, Repr

/-- The line source of a text read to its end, or until an interruption. -/
def LineSource.ofBytes (bytes : List UInt8) (cut : Option Interruption := none) : LineSource :=
  match cut with
  | some c =>
    if c.after ≤ bytes.length then
      { pending := numberLines 1 ((cutLines (bytes.take c.after)).filter (·.2))
        failure := some c.failure.toSourceError }
    else { pending := splitLines bytes }
  | none => { pending := splitLines bytes }

end Timeline
