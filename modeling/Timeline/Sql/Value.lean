import Timeline.Number.Shortest
import Timeline.Number.Read
import Timeline.Number.Integral
import Timeline.Sql.Digits
/-!
# Database values

A value of the database is null, a signed 64-bit integer, a binary64 real, a
text or a blob. Texts are kept as bytes: a text built from a blob need not be
valid UTF-8, and texts compare byte by byte.

A column's declared type gives it an *affinity*, a preference for how values
are stored in it:

* a text affinity stores numbers as their text;
* a numeric affinity stores a text that reads as a number as that number, and
  a real with an integral value as an integer;
* a real affinity stores every number as a real;
* a blob affinity stores what it is given.

Reals become text with fifteen significant digits, and always with a point
(`1.0`, `1.0e+300`). A text reads as a number when, spaces apart, it is
decimal digits with an optional sign, point and exponent.
-/

namespace Timeline.Sql

open Number

/-- A value stored in, or computed by, the database. -/
inductive Value where
  | null
  | integer (n : Int)
  | real (x : Float)
  | text (bytes : List UInt8)
  | blob (bytes : List UInt8)

/-- The text value of a string. -/
def Value.ofString (s : String) : Value := .text s.toUTF8.toList

/-- The least signed 64-bit integer. -/
def int64Min : Int := -9223372036854775808

/-- The greatest signed 64-bit integer. -/
def int64Max : Int := 9223372036854775807

/-- Whether an integer fits in 64 signed bits. -/
def fitsInt64 (n : Int) : Bool := int64Min ≤ n && n ≤ int64Max

/-- The storage class of a value, as the database names it. -/
def Value.typeName : Value → String
  | .null => "null"
  | .integer _ => "integer"
  | .real _ => "real"
  | .text _ => "text"
  | .blob _ => "blob"

/-! ## Affinities -/

/-- The storage preference of a column. -/
inductive Affinity where
  | blob
  | text
  | numeric
  | integer
  | real
  deriving DecidableEq, Repr

/-- The affinity of a declared type. The type is read from left to right, four
letters at a time and without regard to case: `INT` decides at once; `CHAR`,
`CLOB` and `TEXT` give text; `BLOB` gives blob, and `REAL`, `FLOA` and `DOUB`
give real, each unless an earlier rule decided; no type at all is blob, and any
other type is numeric. -/
def Affinity.ofDeclared : Option String → Affinity
  | none => .blob
  | some declared =>
    let rec go (window : List Char) (aff : Affinity) : List Char → Affinity
      | [] => aff
      | c :: rest =>
        let window := (window ++ [c.toLower]).drop (if window.length ≥ 4 then 1 else 0)
        let last3 := window.drop (window.length - 3)
        if last3 == ['i', 'n', 't'] then .integer
        else if window == ['c', 'h', 'a', 'r'] || window == ['c', 'l', 'o', 'b'] ||
            window == ['t', 'e', 'x', 't'] then go window .text rest
        else if window == ['b', 'l', 'o', 'b'] && (aff == .numeric || aff == .real) then
          go window .blob rest
        else if (window == ['r', 'e', 'a', 'l'] || window == ['f', 'l', 'o', 'a'] ||
            window == ['d', 'o', 'u', 'b']) && aff == .numeric then go window .real rest
        else go window aff rest
    go [] .numeric declared.toList

/-- Whether an affinity prefers numbers. -/
def Affinity.isNumeric : Affinity → Bool
  | .numeric | .integer | .real => true
  | _ => false

/-! ## Reals as text

Reals are written by `realText` of `Timeline.Sql.Digits`. -/

/-- The decimal text of an integer. -/
def integerText (n : Int) : String :=
  if n < 0 then "-" ++ String.ofList (Nat.toDigits 10 n.natAbs) else String.ofList (Nat.toDigits 10 n.toNat)

/-! ## Texts as numbers -/

/-- Whether a byte is a space of the database's number reader. -/
def isSpaceByte (b : UInt8) : Bool :=
  b == 32 || (9 ≤ b && b ≤ 13)

/-- Whether a byte is an ASCII digit. -/
def isDigitByte (b : UInt8) : Bool := 48 ≤ b && b ≤ 57

/-- The value of a run of ASCII digits. -/
def digitBytesValue (ds : List UInt8) : Nat :=
  ds.foldl (fun acc d => acc * 10 + (d.toNat - 48)) 0

/-- A number read from the start of a text: its sign, digits, exponent, and
whether it had a point or an exponent. -/
structure NumberPrefix where
  negative : Bool
  digits : List UInt8
  fractionDigits : Nat
  exponent : Int
  integral : Bool

/-- The real a number prefix reads as (see `readReal`). -/
def NumberPrefix.toReal (p : NumberPrefix) : Float :=
  let ds := p.digits.map fun d => d.toNat - 48
  readReal p.negative (ds.take (ds.length - p.fractionDigits)) (ds.drop (ds.length - p.fractionDigits))
    p.exponent

/-- The value a number prefix stands for: an integer when it is written as one
and fits, else a real. -/
def NumberPrefix.value (p : NumberPrefix) : Value :=
  let n : Int := digitBytesValue p.digits
  let n := if p.negative then -n else n
  if p.integral && fitsInt64 n then .integer n else .real p.toReal

/-- Reads a number at the start of a text (after spaces); returns it and the rest. -/
def readNumberPrefix (bytes : List UInt8) : Option (NumberPrefix × List UInt8) :=
  let bytes := bytes.dropWhile isSpaceByte
  let (negative, bytes) :=
    match bytes with
    | 45 :: r => (true, r)
    | 43 :: r => (false, r)
    | r => (false, r)
  let whole := bytes.takeWhile isDigitByte
  let rest := bytes.dropWhile isDigitByte
  let (frac, rest, point) :=
    match rest with
    | 46 :: r => (r.takeWhile isDigitByte, r.dropWhile isDigitByte, true)
    | r => ([], r, false)
  if whole.isEmpty && frac.isEmpty then none
  else
    let (exponent, rest, hasExp) :=
      match rest with
      | e :: r =>
        if e == 101 || e == 69 then
          let (eneg, r') := match r with
            | 45 :: r' => (true, r')
            | 43 :: r' => (false, r')
            | r' => (false, r')
          let eds := r'.takeWhile isDigitByte
          if eds.isEmpty then ((0 : Int), rest, false)
          else
            let v : Int := cappedExponent (eds.map fun d => d.toNat - 48)
            (if eneg then -v else v, r'.dropWhile isDigitByte, true)
        else (0, rest, false)
      | [] => (0, [], false)
    some (⟨negative, whole ++ frac, frac.length, exponent, !(point || hasExp)⟩, rest)

/-- The number a whole text reads as, spaces around it allowed. -/
def readNumber? (bytes : List UInt8) : Option NumberPrefix :=
  match readNumberPrefix bytes with
  | some (p, rest) => if rest.all isSpaceByte then some p else none
  | none => none

/-- The number at the start of a text, or integer zero when there is none. -/
def numericPrefix (bytes : List UInt8) : Value :=
  match readNumberPrefix bytes with
  | some (p, _) => p.value
  | none => .integer 0

/-- The real value of the number at the start of a text, zero when there is none. -/
def realPrefix (bytes : List UInt8) : Float :=
  match readNumberPrefix bytes with
  | some (p, _) => p.toReal
  | none => 0

/-- The integer at the start of a text: its leading digits, zero when there are none. -/
def integerPrefix (bytes : List UInt8) : Int :=
  let bytes := bytes.dropWhile isSpaceByte
  let (negative, bytes) :=
    match bytes with
    | 45 :: r => (true, r)
    | 43 :: r => (false, r)
    | r => (false, r)
  let n : Int := digitBytesValue (bytes.takeWhile isDigitByte)
  let n := if negative then -n else n
  if n > int64Max then int64Max else if n < int64Min then int64Min else n

/-! ## Conversions -/

/-- The integer of a real, toward zero and clamped to 64 bits; `NaN` gives zero. -/
def realToInteger (x : Float) : Int :=
  if x.isNaN then 0
  else if x ≥ 9223372036854775807.0 then int64Max
  else if x ≤ -9223372036854775808.0 then int64Min
  else integerPart x

/-- A real with an integral value strictly inside the 64-bit range, as that integer. -/
def integralReal? (x : Float) : Option Int :=
  if x.isNaN || x.isInf then none
  else
    let n := integerPart x
    if Float.ofInt n == x && int64Min < n && n < int64Max then some n else none

/-- The text of a value, for those that have one. -/
def Value.textBytes : Value → Option (List UInt8)
  | .null => none
  | .integer n => some (integerText n).toUTF8.toList
  | .real x => some (realText x).toUTF8.toList
  | .text b | .blob b => some b

/-- A value as stored in a column of the given affinity. -/
def Value.withAffinity (aff : Affinity) (v : Value) : Value :=
  match aff, v with
  | .blob, v => v
  | .text, .integer n => .ofString (integerText n)
  | .text, .real x => .ofString (realText x)
  | .text, v => v
  | .real, .integer n => .real (Float.ofInt n)
  | .real, .text b =>
    match readNumber? b with
    | some p => .real p.toReal
    | none => .text b
  | .real, v => v
  | _, .real x =>
    match integralReal? x with
    | some n => .integer n
    | none => .real x
  | _, .text b =>
    match readNumber? b with
    | some p =>
      match p.value with
      | .real x =>
        match integralReal? x with
        | some n => .integer n
        | none => .real x
      | other => other
    | none => .text b
  | _, v => v

/-- A value converted by a `CAST` to a type of the given affinity. -/
def Value.cast (aff : Affinity) (v : Value) : Value :=
  match v with
  | .null => .null
  | _ =>
    match aff with
    | .blob => match v.textBytes with
      | some b => .blob b
      | none => v
    | .text => match v.textBytes with
      | some b => .text b
      | none => v
    | .real => match v with
      | .integer n => .real (Float.ofInt n)
      | .real x => .real x
      | .text b | .blob b => .real (realPrefix b)
      | .null => .null
    | .integer => match v with
      | .integer n => .integer n
      | .real x => .integer (realToInteger x)
      | .text b | .blob b => .integer (integerPrefix b)
      | .null => .null
    | .numeric => match v with
      | .text b | .blob b =>
        match numericPrefix b with
        | .real x => match integralReal? x with
          | some n => .integer n
          | none => .real x
        | other => other
      | other => other

/-- The number a value stands for in arithmetic: texts and blobs by their
numeric prefix, null stays null. -/
def Value.toNumeric : Value → Value
  | .text b | .blob b => numericPrefix b
  | v => v

/-- The real of a value, as arithmetic on reals reads it: texts and blobs by
their numeric prefix, null as zero. -/
def Value.toReal : Value → Float
  | .integer n => Float.ofInt n
  | .real x => x
  | .text b | .blob b => realPrefix b
  | .null => 0

/-- The integer of a value, as bit operators read it: reals toward zero and
clamped, texts and blobs by their leading digits, null as zero. -/
def Value.toInteger : Value → Int
  | .integer n => n
  | .real x => realToInteger x
  | .text b | .blob b => integerPrefix b
  | .null => 0

/-- The truth of a value: null is unknown, a number is true when non-zero. -/
def Value.truth? : Value → Option Bool
  | .null => none
  | .integer n => some (n != 0)
  | .real x => some (x != 0)
  | .text b | .blob b =>
    match numericPrefix b with
    | .integer n => some (n != 0)
    | .real x => some (x != 0)
    | _ => some false

/-! ## Order -/

/-- Byte-by-byte order of texts and blobs. -/
def compareBytes : List UInt8 → List UInt8 → Ordering
  | [], [] => .eq
  | [], _ => .lt
  | _, [] => .gt
  | a :: as, b :: bs => if a < b then .lt else if b < a then .gt else compareBytes as bs

/-- Exact order of an integer and a finite real. -/
def compareIntReal (n : Int) (x : Float) : Ordering :=
  if x.isInf then (if x > 0 then .lt else .gt)
  else
    let b := Binary.ofBits x.toBits
    let negative := x < 0
    let lhs : Int := n * Int.pow 2 (-b.q).toNat
    let rhs : Int := (b.m * Nat.pow 2 b.q.toNat : Nat)
    let rhs := if negative then -rhs else rhs
    compare lhs rhs

/-- The order of two reals; reals here are never `NaN`. -/
def compareReals (x y : Float) : Ordering :=
  if x < y then .lt else if y < x then .gt else .eq

/-- How texts are ordered. -/
inductive Collation where
  /-- Byte by byte. -/
  | binary
  /-- Byte by byte with ASCII letters folded to lower case. -/
  | noCase
  /-- Byte by byte with trailing spaces ignored. -/
  | rtrim
  deriving DecidableEq, Repr

/-- The collation of a name, without regard to ASCII case. -/
def Collation.ofName? (name : String) : Option Collation :=
  match name.map Char.toUpper with
  | "BINARY" => some .binary
  | "NOCASE" => some .noCase
  | "RTRIM" => some .rtrim
  | _ => none

/-- The lower-case ASCII form of a byte. -/
def foldByte (b : UInt8) : UInt8 := if 65 ≤ b && b ≤ 90 then b + 32 else b

/-- Orders two texts under a collation. -/
def Collation.compareTexts : Collation → List UInt8 → List UInt8 → Ordering
  | .binary, a, b => compareBytes a b
  | .noCase, a, b => compareBytes (a.map foldByte) (b.map foldByte)
  | .rtrim, a, b =>
    let trim (x : List UInt8) := (x.reverse.dropWhile (· == 32)).reverse
    compareBytes (trim a) (trim b)

/-- The order of values: nulls, then numbers by value, then texts under the
collation, then blobs byte by byte. -/
def Value.compareWith (c : Collation) : Value → Value → Ordering
  | .null, .null => .eq
  | .null, _ => .lt
  | _, .null => .gt
  | .integer a, .integer b => Ord.compare a b
  | .integer a, .real y => compareIntReal a y
  | .real x, .integer b => (compareIntReal b x).swap
  | .real x, .real y => compareReals x y
  | .integer _, _ => .lt
  | .real _, _ => .lt
  | .text _, .integer _ | .text _, .real _ => .gt
  | .text a, .text b => c.compareTexts a b
  | .text _, .blob _ => .lt
  | .blob a, .blob b => compareBytes a b
  | .blob _, _ => .gt

/-- The order of values with texts byte by byte. -/
def Value.compare : Value → Value → Ordering := Value.compareWith .binary

end Timeline.Sql
