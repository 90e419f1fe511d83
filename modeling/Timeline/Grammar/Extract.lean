import Timeline.Grammar.Basic
import Timeline.Pattern.Basic
/-!
# Grammars and time assembly

A grammar is a list of fields, the times it assembles from them, and how its
units are delimited: one line each, or a first line followed by every line up
to one that a lookahead pattern matches.

After the fields are read, each time takes its components out of the record
and puts a raw time under its own name. An epoch time takes one integer field.
A calendar time takes the year (from a field, or else the year of the scan),
the month (a number or a name), the fraction of the second when it has one,
then day, hour, minute and second; numeric components must fit the ranges of
their parts.
-/

namespace Timeline

open Time

/-- Where a calendar time takes its year. -/
inductive YearSource where
  | field (name : String)
  | scan
  deriving DecidableEq, Repr

/-- The field a year is read from, if any. -/
def YearSource.field? : YearSource → Option String
  | .field name => some name
  | .scan => none

/-- The field holding a fraction of the second, and its number of digits. -/
structure FractionField where
  field : String
  digits : Nat
  deriving DecidableEq, Repr

/-- The fields of a calendar time. -/
structure TupleLayout where
  year : YearSource
  month : String
  day : String
  hour : String
  minute : String
  second : String
  fraction : Option FractionField := none
  deriving DecidableEq, Repr

/-- How a time is put together from fields. -/
inductive TimeLayout where
  | epochSeconds (field : String)
  | epochMillis (field : String)
  | tuple (layout : TupleLayout)
  deriving DecidableEq, Repr

/-- The fields a time takes, in the order of the layout. -/
def TimeLayout.components : TimeLayout → List String
  | .epochSeconds f | .epochMillis f => [f]
  | .tuple l =>
    l.year.field?.toList ++ [l.month, l.day, l.hour, l.minute, l.second] ++
      (l.fraction.map (·.field)).toList

/-- A time of a grammar: the name it is recorded under and its layout. -/
structure TimeField where
  name : String
  layout : TimeLayout
  deriving DecidableEq, Repr

/-- How the units of a text are delimited. -/
inductive Boundary where
  /-- Every line is a unit. -/
  | line
  /-- A unit runs up to the next line that the pattern matches. -/
  | lookahead (p : Pattern)
  deriving Repr

/-- The fields, times and unit boundary of a text artifact. -/
structure Grammar where
  fields : List FieldSpec
  times : List TimeField := []
  boundary : Boundary := .line
  deriving Repr

/-- Why a unit gave no record. -/
inductive ExtractError where
  | mismatch (e : MatchError)
  | missingComponent (time component : String)
  | invalidComponent (time component : String)
  | missingYear (time : String)
  deriving DecidableEq, Repr

/-- The message of an extraction error. -/
def ExtractError.message : ExtractError → String
  | .mismatch e => e.message
  | .missingComponent t c => "time `" ++ t ++ "` is missing component `" ++ c ++ "`"
  | .invalidComponent t c => "time `" ++ t ++ "` has an invalid `" ++ c ++ "` component"
  | .missingYear t => "no year available for time `" ++ t ++ "`"

/-- The names of the fields that are recorded, in order. -/
def Grammar.captured (g : Grammar) : List String :=
  (g.fields.filter (!·.suppress)).map (·.name)

/-- The record of a unit, before time assembly. -/
def Grammar.apply (g : Grammar) (unit : String) : Except MatchError Record :=
  applyFields g.fields unit

/-- Assembly runs on the record, taking components out of it. -/
abbrev Assembly := StateT Record (Except ExtractError)

/-- Takes an integer component out of the record. -/
def takeInt (time component : String) : Assembly Int := do
  let (v, r) := (← get).take? component
  set r
  match v with
  | some (.int n) => pure n
  | some _ => throw (.invalidComponent time component)
  | none => throw (.missingComponent time component)

/-- Takes an integer component that must lie between two bounds. -/
def takeBounded (time component : String) (lo hi : Int) : Assembly Int := do
  let n ← takeInt time component
  if lo ≤ n ∧ n ≤ hi then pure n else throw (.invalidComponent time component)

/-- Takes a component that must fit 32 unsigned bits. -/
def takeWord (time component : String) : Assembly Nat :=
  (·.toNat) <$> takeBounded time component 0 4294967295

/-- Takes the month: a number that fits 32 unsigned bits, or a name. -/
def takeMonth (time component : String) : Assembly MonthRef := do
  let (v, r) := (← get).take? component
  set r
  match v with
  | some (.int n) =>
    if 0 ≤ n ∧ n ≤ 4294967295 then pure (.number n.toNat)
    else throw (.invalidComponent time component)
  | some (.str s) => pure (.name s)
  | some _ => throw (.invalidComponent time component)
  | none => throw (.missingComponent time component)

/-- Takes the year of a calendar time of time field `time`: from its field, or
else the year of the scan. -/
def TupleLayout.takeYear (l : TupleLayout) (time : String) (scanYear : Option Int) :
    Assembly Int :=
  match l.year with
  | .field f => takeBounded time f (-2147483648) 2147483647
  | .scan =>
    match scanYear with
    | some y => pure y
    | none => throw (.missingYear time)

/-- Takes the fraction of the second of a calendar time, when it has one. -/
def TupleLayout.takeFraction (l : TupleLayout) (time : String) : Assembly (Option Fraction) :=
  match l.fraction with
  | some f => (fun v => some ⟨v, f.digits⟩) <$> takeWord time f.field
  | none => pure none

/-- Puts the raw time of a time field together from the record. -/
def TimeField.assemble (t : TimeField) (scanYear : Option Int) : Assembly RawTime :=
  match t.layout with
  | .epochSeconds f => RawTime.epochSeconds <$> takeInt t.name f
  | .epochMillis f => RawTime.epochMillis <$> takeInt t.name f
  | .tuple l => do
    let year ← l.takeYear t.name scanYear
    let month ← takeMonth t.name l.month
    let fraction ← l.takeFraction t.name
    let day ← takeWord t.name l.day
    let hour ← takeWord t.name l.hour
    let minute ← takeWord t.name l.minute
    let second ← takeWord t.name l.second
    pure (.tuple ⟨year, month, day, hour, minute, second, fraction, none⟩)

/-- Assembles a time in a record: its components are taken out and the raw time
is put under the time's name. -/
def TimeField.assembleInto (t : TimeField) (scanYear : Option Int) (record : Record) :
    Except ExtractError Record := do
  let (raw, record') ← (t.assemble scanYear).run record
  pure (record'.insert t.name (.time raw))

/-- The record of a unit with its times assembled; `scanYear` dates times without a year. -/
def Grammar.extract (g : Grammar) (unit : String) (scanYear : Option Int) :
    Except ExtractError Record := do
  let record ← (g.apply unit).mapError .mismatch
  g.times.foldlM (fun record t => t.assembleInto scanYear record) record

end Timeline
