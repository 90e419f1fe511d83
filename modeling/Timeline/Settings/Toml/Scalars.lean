import Timeline.Settings.Toml.Lexical
import Timeline.Number.Read
/-!
# Numbers and dates in configuration files

Integers are decimal with an optional sign and no leading zero, or `0x`,
`0o` or `0b` followed by digits of that base; `_` may stand between two
digits. An integer must fit in 64 signed bits.

A float is a decimal integer followed by an exponent, or by a point, digits
and an optional exponent; or `inf` or `nan` with an optional sign. A float
that reads as positive infinity is refused; a negative one is kept.

A date is `YYYY-MM-DD` with a valid day of its month; it may be followed by
`T`, `t` or a space and a time `HH:MM:SS` with an optional fraction of a
second, and then by `Z` or an offset `+HH:MM`. A time may also stand alone.
Dates are kept as their text.
-/

namespace Timeline.Settings.Toml

/-- The offset after digits (by a test) with single `_` between them,
from `i` on. An `_` not followed by a digit is fatal. -/
def separatedDigits (bs : ByteArray) (isD : UInt8 → Bool) (i : Nat) : Outcome Unit :=
  go (bs.size + 1 - i) i
where
  go : Nat → Nat → Outcome Unit
    | 0, j => .ok ((), j)
    | n + 1, j =>
      if satisfiesAt bs j isD then go n (j + 1)
      else if isAt bs j '_' then
        if satisfiesAt bs (j + 1) isD then go n (j + 2)
        else fatalAt (j + 1) [.expected (.description "digit")]
      else .ok ((), j)

/-- The offset after an optional sign. -/
def afterSign (bs : ByteArray) (i : Nat) : Nat :=
  if isAt bs i '+' || isAt bs i '-' then i + 1 else i

/-- A decimal integer's text: an optional sign, then `0` or a digit from one
to nine followed by digits. -/
def decimalInteger (bs : ByteArray) (i : Nat) : Outcome Unit :=
  let j := afterSign bs i
  let r : Outcome Unit :=
    if satisfiesAt bs j (fun b => 0x31 ≤ b && b ≤ 0x39) then separatedDigits bs isDigit (j + 1)
    else if isAt bs j '0' then .ok ((), j + 1)
    else failAt j
  r.note (.reading "integer")

/-- Digits that may start with zero. -/
def leadingZeroDigits (bs : ByteArray) (i : Nat) : Outcome Unit :=
  if satisfiesAt bs i isDigit then separatedDigits bs isDigit (i + 1) else failAt i

/-- An exponent: `e` or `E`, an optional sign and digits. -/
def exponent (bs : ByteArray) (i : Nat) : Outcome Unit :=
  if isAt bs i 'e' || isAt bs i 'E' then (leadingZeroDigits bs (afterSign bs (i + 1))).commit
  else failAt i

/-- A fraction: a point and digits. -/
def fraction (bs : ByteArray) (i : Nat) : Outcome Unit :=
  if isAt bs i '.' then
    ((leadingZeroDigits bs (i + 1)).commit).note (.expected (.description "digit"))
  else failAt i

/-- A float's text in decimal form. -/
def decimalFloat (bs : ByteArray) (i : Nat) : Outcome Unit :=
  match decimalInteger bs i with
  | .ok ((), j) =>
    (exponent bs j).orElse fun _ =>
      match fraction bs j with
      | .ok ((), k) =>
        match (exponent bs k).optional k with
        | .ok (_, m) => .ok ((), m)
        | .error f => .error f
      | .error f => .error f
  | .error f => .error f

/-- The text between two offsets without its `_`. -/
def digitsText (bs : ByteArray) (i j : Nat) : String :=
  String.ofList ((textBetween bs i j).toList.filter (· != '_'))

/-- Positive infinity. -/
def infinity : Float := Number.scientificValue 1 400

/-- `inf` or `nan` with an optional sign. -/
def specialFloat (bs : ByteArray) (i : Nat) : Outcome Float :=
  let j := afterSign bs i
  let sign := fun (x : Float) => if isAt bs i '-' then -x else x
  if wordAt bs j "inf" then .ok (sign infinity, j + 3)
  else if wordAt bs j "nan" then .ok (sign (0 / 0), j + 3)
  else failAt j

/-- A float. -/
def float (bs : ByteArray) (i : Nat) : Outcome Float :=
  let r : Outcome Float :=
    match decimalFloat bs i with
    | .ok ((), k) =>
      match Number.readFloat? (digitsText bs i k) with
      | some x => if x == infinity then fatalAt i else .ok (x, k)
      | none => fatalAt i
    | .error f => if f.fatal then .error f else specialFloat bs i
  r.note (.reading "floating-point number")

/-- Whether an integer fits in 64 signed bits. -/
def fitsInt64 (n : Int) : Bool :=
  -9223372036854775808 ≤ n && n ≤ 9223372036854775807

/-- The value of digits in a base. -/
def baseValue (base : Nat) (s : String) : Nat :=
  s.toList.foldl (fun acc c =>
    let d := if c.isDigit then c.toNat - '0'.toNat else c.toLower.toNat - 'a'.toNat + 10
    acc * base + d) 0

/-- An integer after `0x`, `0o` or `0b`. -/
def prefixedInteger (bs : ByteArray) (base : Nat) (isD : UInt8 → Bool) (what : String) (i : Nat) :
    Outcome Int :=
  let j := i + 2
  let digits : Outcome Unit :=
    if satisfiesAt bs j isD then separatedDigits bs isD (j + 1) else failAt j
  match ((digits.commit).note (.reading what)) with
  | .ok ((), k) =>
    let n := baseValue base (digitsText bs j k)
    if n ≤ 9223372036854775807 then .ok (n, k)
    else fatalAt i [] (some "number too large to fit in target type")
  | .error f => .error f

/-- An integer. -/
def integer (bs : ByteArray) (i : Nat) : Outcome Int :=
  if isAt bs i '0' && isAt bs (i + 1) 'x' then prefixedInteger bs 16 isHexDigit "hexadecimal integer" i
  else if isAt bs i '0' && isAt bs (i + 1) 'o' then
    prefixedInteger bs 8 (fun b => 0x30 ≤ b && b ≤ 0x37) "octal integer" i
  else if isAt bs i '0' && isAt bs (i + 1) 'b' then
    prefixedInteger bs 2 (fun b => b == 0x30 || b == 0x31) "binary integer" i
  else
    match decimalInteger bs i with
    | .ok ((), k) =>
      match Number.readInteger? (digitsText bs i k) with
      | some n =>
        if fitsInt64 n then .ok (n, k)
        else if n > 0 then fatalAt i [] (some "number too large to fit in target type")
        else fatalAt i [] (some "number too small to fit in target type")
      | none => fatalAt i
    | .error f => .error f

/-- The value of exactly `n` digits at an offset, if they are there. -/
def fixedDigits (bs : ByteArray) (n i : Nat) : Option Nat :=
  if min (span bs isDigit i) (i + n) == i + n then
    some ((bs.extract i (i + n)).data.foldl (fun acc b => acc * 10 + (b.toNat - 0x30)) 0)
  else none

/-- Two digits in a range at an offset: recoverable when the digits are
missing, and with the range problem when they are out of range. -/
def twoDigits (bs : ByteArray) (lo hi i : Nat) : Outcome Nat :=
  match fixedDigits bs 2 i with
  | some v => if lo ≤ v && v ≤ hi then .ok (v, i + 2) else .error { offset := i, cause := some "value is out of range" }
  | none => failAt i

/-- A character at an offset, or a recoverable failure. -/
def expectChar (bs : ByteArray) (c : Char) (i : Nat) : Outcome Unit :=
  if isAt bs i c then .ok ((), i + 1) else failAt i

/-- The number of days of a month. -/
def daysInMonth (year month : Nat) : Nat :=
  if month == 2 then
    if year % 4 == 0 && (year % 100 != 0 || year % 400 == 0) then 29 else 28
  else if month == 4 || month == 6 || month == 9 || month == 11 then 30
  else 31

/-- A date `YYYY-MM-DD`. Past the first `-`, a failure is fatal. -/
def fullDate (bs : ByteArray) (i : Nat) : Outcome Unit :=
  match fixedDigits bs 4 i with
  | none => failAt i
  | some year =>
    if !isAt bs (i + 4) '-' then failAt (i + 4)
    else
      match (twoDigits bs 1 12 (i + 5)).commit with
      | .error f => .error f
      | .ok (month, j) =>
        match (expectChar bs '-' j).commit with
        | .error f => .error f
        | .ok ((), k) =>
          match (twoDigits bs 1 31 k).commit with
          | .error f => .error f
          | .ok (day, m) =>
            if daysInMonth year month < day then fatalAt k [] (some "value is out of range")
            else .ok ((), m)

/-- A time `HH:MM:SS` with an optional fraction. Past the first `:`, a
failure is fatal. -/
def partialTime (bs : ByteArray) (i : Nat) : Outcome Unit :=
  match twoDigits bs 0 23 i with
  | .error f => .error f
  | .ok (_, j) =>
    match expectChar bs ':' j with
    | .error f => .error f
    | .ok ((), k) =>
      let rest : Except Failure (Unit × Nat) := do
        let (_, m) ← twoDigits bs 0 59 k
        let ((), m) ← expectChar bs ':' m
        let (_, m) ← twoDigits bs 0 60 m
        if isAt bs m '.' && satisfiesAt bs (m + 1) isDigit then pure ((), span bs isDigit (m + 1))
        else pure ((), m)
      Outcome.commit rest

/-- A time offset: `Z`, `z`, or a sign and `HH:MM`. -/
def timeOffset (bs : ByteArray) (i : Nat) : Outcome Unit :=
  let r : Outcome Unit :=
    if isAt bs i 'Z' || isAt bs i 'z' then .ok ((), i + 1)
    else if isAt bs i '+' || isAt bs i '-' then
      let rest : Except Failure (Unit × Nat) := do
        let (_, m) ← twoDigits bs 0 23 (i + 1)
        let ((), m) ← expectChar bs ':' m
        let (_, m) ← twoDigits bs 0 59 m
        pure ((), m)
      Outcome.commit rest
    else failAt i
  r.note (.reading "time offset")

/-- A date with an optional time and offset, or a time alone: the offset
after it. -/
def dateTime (bs : ByteArray) (i : Nat) : Outcome Unit :=
  let withDate : Outcome Unit :=
    match fullDate bs i with
    | .error f => .error f
    | .ok ((), p) =>
      if isAt bs p 'T' || isAt bs p 't' || isAt bs p ' ' then
        match partialTime bs (p + 1) with
        | .ok ((), q) =>
          match (timeOffset bs q).optional q with
          | .ok (_, r) => .ok ((), r)
          | .error f => .error f
        | .error f => if f.fatal then .error f else .ok ((), p)
      else .ok ((), p)
  (withDate.note (.reading "date-time")).orElse fun _ =>
    (partialTime bs i).note (.reading "time")

end Timeline.Settings.Toml
