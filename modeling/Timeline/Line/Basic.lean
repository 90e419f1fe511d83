/-!
# Line sources

A line source hands out the lines of a text one at a time and can show lines
ahead without handing them out. It is the list of lines it still holds and what
happens after them: either the data ends, or every further read fails with the
same error.

A read that fails because the other end went away (`closed`) means to scanners
that the data has ended; any other failure (`io`) aborts them.

`LineAccess` is what scanners and detectors ask of any source of lines: the
next line, or a line ahead. A `LineSource` answers by its pending lines; a
reader that buffers what it looks ahead at (`TextLines`) changes as it answers.
-/

namespace Timeline

/-- A line of a text: its number from 1, its text, and whether its bytes were valid UTF-8. -/
structure Line where
  number : Nat
  text : String
  validUtf8 : Bool
  deriving DecidableEq, Repr

/-- Why a source could not be read. -/
inductive SourceError where
  /-- A read failed. -/
  | io (message : String)
  /-- The other end went away. -/
  | closed
  /-- A database could not answer: what it said, then the underlying causes,
  outermost first. -/
  | backend (message : String) (causes : List String)
  deriving DecidableEq, Repr

/-- The message of a source error. -/
def SourceError.message : SourceError → String
  | .io m => "I/O error: " ++ m
  | .closed => "source was closed"
  | .backend m _ => "backend error: " ++ m

/-- The causes under a source error, outermost first: a read failure and a
closed source have none of their own. -/
def SourceError.causes : SourceError → List String
  | .backend m cs => m :: cs
  | _ => []

/-- The lines a source still holds and what follows them. -/
structure LineSource where
  pending : List Line
  /-- `none` when the data ends after the pending lines, else the error of every further read. -/
  failure : Option SourceError := none
  deriving DecidableEq, Repr

namespace LineSource

/-- What a read past the pending lines gives. -/
def afterEnd (s : LineSource) : Except SourceError (Option Line) :=
  match s.failure with
  | none => .ok none
  | some e => .error e

/-- Hands out the next line, if there is one. -/
def next (s : LineSource) : Except SourceError (Option Line) × LineSource :=
  match s.pending with
  | l :: rest => (.ok (some l), { s with pending := rest })
  | [] => (s.afterEnd, s)

/-- Shows the line `k` places ahead without handing anything out. -/
def peek (s : LineSource) (k : Nat) : Except SourceError (Option Line) :=
  match s.pending[k]? with
  | some l => .ok (some l)
  | none => s.afterEnd

end LineSource

/-! ## Sequential access with lookahead -/

/-- Sequential access to the lines of a source of type `σ`: handing out the
next line, and showing the line some places ahead. Either may change the state
of the source, as a reader that fills a buffer while it looks ahead does. -/
structure LineAccess (σ : Type) where
  next : σ → Except SourceError (Option Line) × σ
  peek : σ → Nat → Except SourceError (Option Line) × σ

/-- A line source as sequential access: looking ahead leaves it as it is. -/
def LineSource.access : LineAccess LineSource where
  next := LineSource.next
  peek s k := (s.peek k, s)

/-- A request made of a line source. -/
inductive LineRequest where
  /-- Hand out the next line. -/
  | next
  /-- Show the line `offset` places ahead. -/
  | peek (offset : Nat)
  deriving DecidableEq, Repr

/-- How far ahead of the next line a request looks. -/
def LineRequest.ahead : LineRequest → Nat
  | .next => 0
  | .peek offset => offset

/-- The answers a source gives to requests made one after another. -/
def LineAccess.serve {σ : Type} (acc : LineAccess σ) :
    σ → List LineRequest → List (Except SourceError (Option Line))
  | _, [] => []
  | s, .next :: rs => (acc.next s).1 :: acc.serve (acc.next s).2 rs
  | s, .peek k :: rs => (acc.peek s k).1 :: acc.serve (acc.peek s k).2 rs

end Timeline
