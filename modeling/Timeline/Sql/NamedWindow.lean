import Timeline.Sql.Database
/-!
# Named windows

A query may name windows in its `WINDOW` clause and use them in `OVER`:

* `OVER w` is the window `w` as it is defined, frame included;
* `OVER (w ORDER BY …)` builds on `w`: it takes the partition and order of
  `w`, and adds an order when `w` has none and a frame of its own. It may not
  give a partition, nor an order when `w` has one, and `w` may not have a
  frame of its own.

A definition in the `WINDOW` clause may build on an earlier one in the same
way. A name is looked up without regard to ASCII case.
-/

namespace Timeline.Sql

/-- A window as its parts: its partition, its order, and its frame (which also
names the window it builds on, if any). -/
abbrev WindowParts := List Expr × List (Expr × Bool) × WindowFrame

/-- A window with the named window it builds on, or is, filled in from the
definitions `defs` (each already resolved). -/
def chainWindow (defs : List (String × WindowParts)) (partition : List Expr)
    (order : List (Expr × Bool)) (frame : WindowFrame) : Except SqlError WindowParts :=
  match frame.base with
  | none => .ok (partition, order, frame)
  | some b =>
    match defs.find? (sameName ·.1 b) with
    | none => .error (.unsupported ("no such window: " ++ b))
    | some (_, p, o, f) =>
      if frame.named then .ok (p, o, f)
      else if !partition.isEmpty then
        .error (.unsupported ("cannot override PARTITION clause of window: " ++ b))
      else if !o.isEmpty && !order.isEmpty then
        .error (.unsupported ("cannot override ORDER BY clause of window: " ++ b))
      else if f.given then
        .error (.unsupported ("cannot override frame specification of window: " ++ b))
      else .ok (p, if o.isEmpty then order else o, { frame with base := none })

end Timeline.Sql
