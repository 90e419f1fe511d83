import Timeline.Time.Raw
import Timeline.Data.NameMap
/-!
# Extracted records

A record holds the values taken from one unit of evidence, by field name, in a
`NameMap`: sorted by name, each name once, the last write under a name winning.
A value is a text, an integer, a truth value or a raw time still to be
normalized.
-/

namespace Timeline

open Time

/-- A value taken from evidence. -/
inductive FieldValue where
  | str (s : String)
  | int (n : Int)
  | bool (b : Bool)
  | time (t : RawTime)
  deriving DecidableEq, Repr

/-- Values by field name. -/
abbrev Record := NameMap FieldValue

namespace Record

/-- The value under a name, and the record without it. -/
def take? (r : Record) (k : String) : Option FieldValue × Record :=
  (r.get? k, r.erase k)

/-- The text under a name, if it holds a text. -/
def getStr? (r : Record) (k : String) : Option String :=
  match r.get? k with
  | some (.str s) => some s
  | _ => none

/-- The integer under a name, if it holds an integer. -/
def getInt? (r : Record) (k : String) : Option Int :=
  match r.get? k with
  | some (.int n) => some n
  | _ => none

/-- The truth value under a name, if it holds one. -/
def getBool? (r : Record) (k : String) : Option Bool :=
  match r.get? k with
  | some (.bool b) => some b
  | _ => none

end Record

end Timeline
