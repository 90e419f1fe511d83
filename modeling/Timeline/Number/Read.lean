/-!
# Reading numbers

The number syntax accepted in evidence text:

* an integer is an optional `+` or `-` followed by one or more ASCII digits,
  and it must fit in 64 signed bits (`readInt64?`), or 32 (`readInt32?`);
* a floating-point number is an optional sign followed by `inf`, `infinity` or
  `nan` in any case, or by digits with an optional point (at least one digit on
  either side of it) and an optional exponent `e` or `E` with an optional sign
  and at least one digit (`readFloat?`). The value is the nearest binary64
  value, infinite past the largest one.
-/

namespace Timeline.Number

/-- The value of a list of ASCII digits. -/
def digitsValue (ds : List Char) : Nat :=
  ds.foldl (fun acc c => acc * 10 + (c.toNat - '0'.toNat)) 0

/-- An optional sign followed by one or more ASCII digits, as an integer of any size. -/
def readInteger? (s : String) : Option Int :=
  let (negative, body) :=
    match s.toList with
    | '-' :: rest => (true, rest)
    | '+' :: rest => (false, rest)
    | cs => (false, cs)
  if body.isEmpty || !body.all Char.isDigit then none
  else
    let n : Int := digitsValue body
    some (if negative then -n else n)

/-- The least and the greatest 64-bit signed integer. -/
def int64Min : Int := -9223372036854775808
def int64Max : Int := 9223372036854775807

/-- The least and the greatest 32-bit signed integer, and the greatest unsigned one. -/
def int32Min : Int := -2147483648
def int32Max : Int := 2147483647
def uint32Max : Int := 4294967295

/-- An integer that fits in 64 signed bits. -/
def readInt64? (s : String) : Option Int :=
  (readInteger? s).filter fun n => int64Min ≤ n && n ≤ int64Max

/-- An integer that fits in 32 signed bits. -/
def readInt32? (s : String) : Option Int :=
  (readInteger? s).filter fun n => -2147483648 ≤ n && n ≤ 2147483647

/-- Splits off the leading ASCII digits. -/
def spanDigits (cs : List Char) : List Char × List Char :=
  (cs.takeWhile Char.isDigit, cs.dropWhile Char.isDigit)

/-- The exponent part: empty, or `e`/`E`, an optional sign and digits. -/
def readExponent? : List Char → Option Int
  | [] => some 0
  | c :: rest =>
    if c == 'e' || c == 'E' then
      let (negative, body) :=
        match rest with
        | '-' :: r => (true, r)
        | '+' :: r => (false, r)
        | r => (false, r)
      if body.isEmpty || !body.all Char.isDigit then none
      else
        let n : Int := digitsValue body
        some (if negative then -n else n)
    else none

/-- The nearest binary64 value of `m * 10^e`; past the range it is infinite or zero. -/
def scientificValue (m : Nat) (e : Int) : Float :=
  let width : Int := (Nat.toDigits 10 m).length
  if m == 0 then 0
  else if e + width > 310 then Float.ofScientific 1 false 400
  else if e + width < -330 then 0
  else Float.ofScientific m (e < 0) e.natAbs

/-- A number without its sign: digits, a point and an exponent. -/
def readUnsignedFloat? (cs : List Char) : Option Float :=
  let lower := cs.map Char.toLower
  if lower == "inf".toList || lower == "infinity".toList then some (Float.ofScientific 1 false 400)
  else if lower == "nan".toList then some (0 / 0)
  else
    let (whole, rest) := spanDigits cs
    let (fractional, rest) :=
      match rest with
      | '.' :: r => spanDigits r
      | r => ([], r)
    if whole.isEmpty && fractional.isEmpty then none
    else
      match readExponent? rest with
      | none => none
      | some e => some (scientificValue (digitsValue (whole ++ fractional)) (e - fractional.length))

/-- A floating-point number. -/
def readFloat? (s : String) : Option Float :=
  match s.toList with
  | '-' :: rest => (readUnsignedFloat? rest).map (fun x => -x)
  | '+' :: rest => readUnsignedFloat? rest
  | cs => readUnsignedFloat? cs

end Timeline.Number
