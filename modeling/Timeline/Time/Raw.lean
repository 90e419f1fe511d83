import Timeline.Time.Timestamp
/-!
# Raw time values

The forms in which evidence records time, before normalization:

* seconds or milliseconds since 1970-01-01 (POSIX and Java clocks);
* microseconds since 1601-01-01 (the WebKit clock);
* microseconds since 2001-01-01 (the Cocoa clock);
* a calendar tuple: year, month (a number or a name), day, time of day, an
  optional decimal fraction of the second and an optional offset from UTC in
  minutes.

Month names are looked up in a `MonthTable`; the English table holds the
three-letter abbreviations and ignores ASCII case.
-/

namespace Timeline.Time

/-- A month as a record gives it: by number, or by name. -/
inductive MonthRef where
  | number (n : Nat)
  | name (s : String)
  deriving DecidableEq, Repr

/-- A decimal fraction of a second: `value` over ten to the `digits`. -/
structure Fraction where
  value : Nat
  digits : Nat
  deriving DecidableEq, Repr

/-- A broken-down calendar time. -/
structure TimeTuple where
  year : Int
  month : MonthRef
  day : Nat
  hour : Nat
  minute : Nat
  second : Nat
  fraction : Option Fraction
  utcOffset : Option Int
  deriving DecidableEq, Repr

/-- A time as evidence records it. -/
inductive RawTime where
  | epochSeconds (v : Int)
  | epochMillis (v : Int)
  | webkitMicros (v : Int)
  | cocoaMicros (v : Int)
  | tuple (t : TimeTuple)
  deriving DecidableEq, Repr

/-- Month names and their numbers. -/
structure MonthTable where
  names : List (String × Nat)

/-- Two texts are equal up to the case of ASCII letters. -/
def sameIgnoringAsciiCase (a b : String) : Bool :=
  a.toList.map Char.toLower == b.toList.map Char.toLower

/-- The number of the month a name gives, or 0 when the table has no such name. -/
def MonthTable.number (table : MonthTable) (name : String) : Nat :=
  match table.names.find? (fun entry => sameIgnoringAsciiCase entry.1 name) with
  | some entry => entry.2
  | none => 0

/-- The English three-letter month abbreviations. -/
def MonthTable.english : MonthTable :=
  ⟨[("jan", 1), ("feb", 2), ("mar", 3), ("apr", 4), ("may", 5), ("jun", 6),
    ("jul", 7), ("aug", 8), ("sep", 9), ("oct", 10), ("nov", 11), ("dec", 12)]⟩

/-- What an artifact tells the normalizer about its times. -/
structure TimeHints where
  months : MonthTable := MonthTable.english
  allowNegativeEpoch : Bool := false

end Timeline.Time
