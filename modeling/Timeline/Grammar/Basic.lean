import Timeline.Grammar.Matcher
import Timeline.Text.Trim
/-!
# Field grammars

A field grammar reads a unit of text as a sequence of fields, left to right and
without backtracking. Before each field, spaces and tabs are skipped. Each
field that is not suppressed is written into the record under its name (a later
field of the same name replaces an earlier one). After the last field only white
space may remain.

A failure names the field (an unnamed literal by its text) and the offset in
bytes at which the field was tried; leftover input is reported against the last
field.
-/

namespace Timeline

/-- One field of a grammar: its name, how it is read, and whether it is left
out of the record. -/
structure FieldSpec where
  name : String := ""
  matcher : Matcher
  suppress : Bool := false
  deriving DecidableEq, Repr

/-- A named field. -/
def FieldSpec.named (name : String) (matcher : Matcher) : FieldSpec :=
  { name, matcher }

/-- A separator that must be there and is not recorded. -/
def FieldSpec.lit (text : String) : FieldSpec :=
  { matcher := .literal text, suppress := true }

/-- The same field, left out of the record. -/
def FieldSpec.suppressed (f : FieldSpec) : FieldSpec :=
  { f with suppress := true }

/-- How a failure names a field: an unnamed literal by its text, others by name. -/
def FieldSpec.label (f : FieldSpec) : String :=
  match f.name, f.matcher with
  | "", .literal t => t
  | name, _ => name

/-- A field that could not be read. -/
structure MatchError where
  field : String
  offset : Nat
  reason : MatchFailure
  deriving DecidableEq, Repr

/-- The message of a match error. -/
def MatchError.message (e : MatchError) : String :=
  "field `" ++ e.field ++ "` at offset " ++ toString e.offset ++ ": " ++ e.reason.message

/-- The number of bytes of a list of characters in UTF-8. -/
def utf8Length (cs : List Char) : Nat :=
  cs.foldr (fun c n => c.utf8Size + n) 0

/-- Drops the spaces and tabs at the start. -/
def skipInlineBlanks (cs : List Char) : List Char :=
  cs.dropWhile fun c => c == ' ' || c == '\t'

/-- Reads the fields in order from `rest`, `offset` bytes into the unit. -/
def readFields (fields : List FieldSpec) (rest : List Char) (offset : Nat) (record : Record) :
    Except MatchError (Record × List Char × Nat) :=
  match fields with
  | [] => .ok (record, rest, offset)
  | f :: fs =>
    let rest' := skipInlineBlanks rest
    let offset' := offset + utf8Length rest - utf8Length rest'
    match f.matcher.apply rest' with
    | .error reason => .error ⟨f.label, offset', reason⟩
    | .ok (value, after) =>
      let record' := if f.suppress then record else record.insert f.name value
      readFields fs after (offset' + utf8Length rest' - utf8Length after) record'

/-- The record of a unit read by a list of fields; only white space may follow them. -/
def applyFields (fields : List FieldSpec) (unit : String) : Except MatchError Record := do
  let (record, rest, offset) ← readFields fields unit.toList 0 NameMap.empty
  if Text.isBlank (String.ofList rest) then pure record
  else throw ⟨(fields.getLast?.map FieldSpec.label).getD "", offset, .trailingInput⟩

end Timeline
