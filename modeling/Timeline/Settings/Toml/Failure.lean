/-!
# Failures of the configuration reader

The configuration reader reads bytes and reports a failure at a byte offset.
A failure carries what it learnt on its way out of the readers around it:
the thing that was being read ("invalid string") and what would have been
accepted there ("expected newline, `#`"), innermost first, and the problem
behind it when there is one ("value is out of range").

A failure is either recoverable, so that a choice around it may try another
way from where the choice started, or fatal, so that it ends the reading.
A recoverable failure that escapes every choice still ends the reading.

The report (`Failure.render`) names the line and column of the offset, shows
the line with a caret under that column, and then the message. The column
counts characters, except where the offset falls inside a character of
several bytes, where it counts bytes; an offset at the end of the text is
shown one place past the last character.
-/

namespace Timeline.Settings.Toml

/-- What a failure says would have been accepted where it happened. -/
inductive Expected where
  | char (c : Char)
  | literal (s : String)
  | description (s : String)
  deriving DecidableEq, Repr

/-- What a failure gathers from the readers it leaves. -/
inductive Note where
  /-- The thing being read, as in "invalid string". -/
  | reading (what : String)
  | expected (e : Expected)
  deriving DecidableEq, Repr

/-- A failure to read: its byte offset, whether it is fatal, its notes
(innermost first) and the problem behind it. -/
structure Failure where
  offset : Nat
  fatal : Bool := false
  notes : List Note := []
  cause : Option String := none
  deriving DecidableEq, Repr

/-- The result of a reading step: what was read and the offset after it. -/
abbrev Outcome (α : Type) := Except Failure (α × Nat)

/-- A recoverable failure at an offset, with nothing to say. -/
def failAt {α : Type} (i : Nat) : Outcome α :=
  .error { offset := i }

/-- A fatal failure at an offset. -/
def fatalAt {α : Type} (i : Nat) (notes : List Note := []) (cause : Option String := none) : Outcome α :=
  .error { offset := i, fatal := true, notes := notes, cause := cause }

namespace Outcome

variable {α β : Type}

/-- Adds a note to a failure, outside the notes it has. -/
def note (n : Note) : Outcome α → Outcome α
  | .error f => .error { f with notes := f.notes ++ [n] }
  | r => r

/-- Adds notes to a failure, in order. -/
def notes (ns : List Note) (r : Outcome α) : Outcome α :=
  ns.foldl (fun r n => r.note n) r

/-- Makes a failure fatal. -/
def commit : Outcome α → Outcome α
  | .error f => .error { f with fatal := true }
  | r => r

/-- The second way when the first fails without being fatal. The failure of
the second way is the failure of both. -/
def orElse (first : Outcome α) (second : Unit → Outcome α) : Outcome α :=
  match first with
  | .error f => if f.fatal then .error f else second ()
  | r => r

/-- Nothing at the start offset when reading fails without being fatal. -/
def optional (start : Nat) : Outcome α → Outcome (Option α)
  | .ok (a, j) => .ok (some a, j)
  | .error f => if f.fatal then .error f else .ok (none, start)

/-- Changes what was read. -/
def mapValue (g : α → β) : Outcome α → Outcome β
  | .ok (a, j) => .ok (g a, j)
  | .error f => .error f

end Outcome

/-- How a message shows what would have been accepted. -/
def Expected.describe : Expected → String
  | .char c =>
    if c == '\n' then "newline"
    else if c == '`' then "'`'"
    else "`" ++ c.toString ++ "`"
  | .literal s => "`" ++ s ++ "`"
  | .description s => s

/-- The message of a failure: "invalid" and the innermost thing being read,
then what would have been accepted, then the problem, each on its own line. -/
def Failure.message (f : Failure) : String :=
  let reading := f.notes.findSome? fun
    | .reading w => some w
    | .expected _ => none
  let expected := f.notes.filterMap fun
    | .expected e => some e.describe
    | .reading _ => none
  let parts := (reading.map ("invalid " ++ ·)).toList ++
    (if expected.isEmpty then [] else ["expected " ++ ", ".intercalate expected]) ++
    f.cause.toList
  "\n".intercalate parts

/-- The offset of the last line feed before an offset, if any. -/
def lastLineFeedBefore (bs : ByteArray) : Nat → Option Nat
  | 0 => none
  | i + 1 => if bs.data[i]? == some 10 then some i else lastLineFeedBefore bs i

/-- The line and column (both from zero) of a byte offset, as the report
shows them. -/
def position (bs : ByteArray) (index : Nat) : Nat × Nat :=
  if bs.size == 0 then (0, index)
  else
    let safe := min index (bs.size - 1)
    let lineStart := match lastLineFeedBefore bs safe with
      | some k => k + 1
      | none => 0
    let line := (bs.extract 0 lineStart).data.toList.count 10
    let column := match String.fromUTF8? (bs.extract lineStart (safe + 1)) with
      | some s => s.length - 1
      | none => safe - lineStart
    (line, column + (index - safe))

/-- The report of a failure in a text. -/
def Failure.render (text : String) (f : Failure) : String :=
  let (line, column) := position text.toUTF8 f.offset
  let number := toString (line + 1)
  let gutter := "".pushn ' ' (number.length + 1)
  let content := ((text.splitOn "\n")[line]?).getD ""
  "TOML parse error at line " ++ number ++ ", column " ++ toString (column + 1) ++ "\n" ++
  gutter ++ "|\n" ++
  number ++ " | " ++ content ++ "\n" ++
  gutter ++ "|" ++ "".pushn ' ' (column + 1) ++ "^\n" ++
  f.message ++ "\n"

end Timeline.Settings.Toml
