import Timeline.Line.Basic
/-!
# Failures of a command

A failure is a message with the causes under it, outermost first. A step that
fails while doing something on behalf of a larger one gets that larger one's
message on top (`Failure.within`), so the chain reads from what the command was
doing down to what the system reported.

A chain is shown two ways: on one line, each message followed by `: ` and the
next (`Failure.inline`), which is how per-file problems are reported; and as
the program's last words, the outer message and then the causes under a
`Caused by:` heading (`Failure.report`), numbered when there are several.
-/

namespace Timeline

/-- A failure: its message and the causes under it, outermost first. -/
structure Failure where
  message : String
  causes : List String := []
  deriving DecidableEq, Repr

namespace Failure

/-- The failure seen from a step that was doing something larger. -/
def within (f : Failure) (context : String) : Failure :=
  ⟨context, f.message :: f.causes⟩

/-- The failure of a source read: its message, then the causes under it. -/
def ofSource (e : SourceError) : Failure :=
  ⟨e.message, e.causes⟩

/-- The chain on one line. -/
def inline (f : Failure) : String :=
  ": ".intercalate (f.message :: f.causes)

/-- A number right-aligned in five columns. -/
def causeNumber (n : Nat) : String :=
  let digits := toString n
  "".pushn ' ' (5 - digits.length) ++ digits

/-- A cause under the heading: its first line after the number or the indent,
its later lines indented to match. -/
def causeText (number : Option Nat) (text : String) : String :=
  let first := match number with
    | some n => causeNumber n ++ ": "
    | none => "    "
  let later := match number with
    | some _ => "\n       "
    | none => "\n    "
  first ++ later.intercalate (text.splitOn "\n")

/-- The program's last words about a failure, ending in a line feed. -/
def report (f : Failure) : String :=
  let causes := match f.causes with
    | [] => ""
    | [c] => "\n\nCaused by:\n" ++ causeText none c
    | cs => "\n\nCaused by:" ++ String.join (cs.zipIdx.map fun (c, i) => "\n" ++ causeText (some i) c)
  "Error: " ++ f.message ++ causes ++ "\n"

end Failure

end Timeline
