import Timeline.Number.Shortest
/-!
# Reals and decimal digits in the database engine

The engine computes with pairs of binary64 values whose sum stands for a
value with about twice the precision (`DoubleDouble`), multiplying them by
powers of ten given the same way, with the products of Dekker's method.

It turns a real into decimal digits by scaling it by powers of ten until it
lies near `9.2e17` to `9.2e18`, taking the whole part, and rounding those
digits half up at the place asked for (`decode`). It writes the digits out in
the styles of its formatter (`renderReal`): fixed, with an exponent, or
whichever of the two suits the value.

It reads decimal digits into a real (`readReal`) by collecting up to about
nineteen significant digits in a 64-bit integer, then multiplying that
integer by powers of ten, in steps of a hundred, ten and one, and adding the
two halves.
-/

namespace Timeline.Sql

open Number

/-- A value as the sum of two binary64 values, the second the small rest. -/
structure DoubleDouble where
  hi : Float
  lo : Float

/-- A binary64 value with the low 26 bits of its mantissa cleared. -/
def splitHigh (x : Float) : Float :=
  Float.ofBits (x.toBits &&& 0xfffffffffc000000)

/-- The product with a constant given as `y + yy`, by Dekker's method: the
factors are split at 26 bits so that the partial products are exact. -/
def DoubleDouble.mul (x : DoubleDouble) (y yy : Float) : DoubleDouble :=
  let hx := splitHigh x.hi
  let tx := x.hi - hx
  let hy := splitHigh y
  let ty := y - hy
  let p := hx * hy
  let q := hx * ty + tx * hy
  let c := p + q
  let cc := p - c + q + tx * ty
  let cc := x.hi * yy + x.lo * y + cc
  let hi := c + cc
  ⟨hi, c - hi + cc⟩

/-- The whole part of a non-negative finite real. -/
def wholePart (x : Float) : Nat :=
  let b := Binary.ofBits x.toBits
  if b.q ≥ 0 then b.m * Nat.pow 2 b.q.toNat else b.m / Nat.pow 2 (-b.q).toNat

/-- Multiplies by `y + yy` a number of times. -/
def mulTimes (y yy : Float) : Nat → DoubleDouble → DoubleDouble
  | 0, r => r
  | n + 1, r => mulTimes y yy n (r.mul y yy)

/-- Multiplies by `y + yy` while the value is above `bound`, counting `step`
each time. -/
def scaleDown (bound y yy : Float) (step : Int) : Nat → DoubleDouble × Int → DoubleDouble × Int
  | 0, acc => acc
  | n + 1, (r, e) => if r.hi > bound then scaleDown bound y yy step n (r.mul y yy, e + step) else (r, e)

/-- Multiplies by `y + yy` while the value is below `bound`, counting `step`
down each time. -/
def scaleUp (bound y yy : Float) (step : Int) : Nat → DoubleDouble × Int → DoubleDouble × Int
  | 0, acc => acc
  | n + 1, (r, e) => if r.hi < bound then scaleUp bound y yy step n (r.mul y yy, e - step) else (r, e)

/-- A positive finite real scaled by powers of ten to near `1e18`: the whole
part and the power of ten it stands for. -/
def scaledDigits (x : Float) : Nat × Int :=
  let rr : DoubleDouble := ⟨x, 0⟩
  let (r, e) :=
    if rr.hi > 9.223372036854774784e+18 then
      let acc := scaleDown 9.223372036854774784e+118 1.0e-100 (-1.99918998026028836196e-117) 100 400 (rr, 0)
      let acc := scaleDown 9.223372036854774784e+28 1.0e-10 (-3.6432197315497741579e-27) 10 400 acc
      scaleDown 9.223372036854774784e+18 1.0e-01 (-5.5511151231257827021e-18) 1 400 acc
    else
      let acc := scaleUp 9.223372036854774784e-83 1.0e+100 (-1.5902891109759918046e+83) 100 400 (rr, 0)
      let acc := scaleUp 9.223372036854774784e+07 1.0e+10 0 10 400 acc
      scaleUp 9.22337203685477478e+17 1.0e+01 0 1 400 acc
  let v := if r.lo < 0 then wholePart r.hi - wholePart (-r.lo) else wholePart r.hi + wholePart r.lo
  (v, e)

/-- The decimal digits of a real as the engine finds them: the significant
digits without trailing zeros, and the place of the decimal point (the value
is `0.d₁d₂… × 10^point`). -/
structure Decoded where
  digits : List Nat
  point : Int
  deriving DecidableEq, Repr

/-- Adds one to the last digit, carrying: the digits, and whether a carry
came out of the first. -/
def incrementDigits (ds : List Nat) : List Nat × Bool :=
  ds.foldr (fun d (acc, carry) =>
    if !carry then (d :: acc, false)
    else if d == 9 then (0 :: acc, true) else ((d + 1) :: acc, false)) ([], true)

/-- Drops trailing zero digits, keeping at least one. -/
def dropTrailingZeroDigits (ds : List Nat) : List Nat :=
  match (ds.reverse.dropWhile (· == 0)).reverse with
  | [] => [0]
  | r => r

/-- The digits of a positive finite real, rounded half up to `round` digits,
to at most `most` digits; a `round` of zero or less counts places after the
decimal point instead. -/
def decode (x : Float) (round : Int) (most : Nat) : Decoded :=
  let (v, exp) := scaledDigits x
  let ds := (Nat.toDigits 10 v).map fun c => c.toNat - 48
  let point : Int := ds.length + exp
  let (ds, point, round) :=
    if round ≤ 0 then
      let r := point - round
      if r == 0 && ds.headD 0 ≥ 5 then (0 :: ds, point + 1, (1 : Int)) else (ds, point, r)
    else (ds, point, round)
  let (ds, point) :=
    if round > 0 && (round < ds.length || ds.length > most) then
      let r := min round.toNat most
      let kept := ds.take r
      if ds.getD r 0 ≥ 5 then
        match incrementDigits kept with
        | (k, true) => (1 :: k, point + 1)
        | (k, false) => (k, point)
      else (kept, point)
    else (ds, point)
  ⟨dropTrailingZeroDigits ds, point⟩

/-- The styles of the engine's formatter for reals. -/
inductive RealStyle where
  | fixed
  | exponent
  | general
  deriving DecidableEq, Repr

/-- How a real is to be written. `alternate` always writes the point;
`altered` keeps at least one digit after the point and allows up to 26
significant digits instead of 16. -/
structure RealFormat where
  style : RealStyle
  precision : Nat := 6
  alternate : Bool := false
  altered : Bool := false
  /-- The sign written before a value that is not negative, if any. -/
  plus : Option Char := none
  zeroPad : Bool := false
  thousands : Bool := false
  /-- Whether the exponent is marked `E` rather than `e`. -/
  upper : Bool := false
  deriving DecidableEq, Repr

/-- The exponent part: its letter, a sign and two digits, or three from 100. -/
def exponentSuffix (letter : Char) (e : Int) : String :=
  let sign := if e < 0 then "-" else "+"
  let n := e.natAbs
  let ds := if n ≥ 100 then Nat.toDigits 10 n else if n < 10 then ['0', Char.ofNat (48 + n)] else Nat.toDigits 10 n
  String.singleton letter ++ sign ++ String.ofList ds

/-- The digits before the point: `count` places, from the digits after the
first `used`, then zeros, with thousands separators when asked. -/
def wholeDigits (ds : List Nat) (thousands : Bool) : Nat → List Char
  | 0 => []
  | n + 1 =>
    let d := Char.ofNat (48 + ds.headD 0)
    let sep := if thousands && n % 3 == 0 && n ≥ 2 then [','] else []
    d :: sep ++ wholeDigits ds.tail thousands n

/-- A finite or infinite real written in a format. -/
def renderReal (x : Float) (f : RealFormat) : String :=
  let precision : Nat := if f.style == .general && f.precision == 0 then 1 else f.precision
  let round : Int := match f.style with
    | .fixed => -(precision : Int)
    | .general => precision
    | .exponent => precision + 1
  if x.isNaN then (if f.zeroPad then "null" else "NaN")
  else if x.isInf && !f.zeroPad then
    if x < 0 then "-Inf" else (f.plus.map String.singleton).getD "" ++ "Inf"
  else
    let negative := x < 0
    let d : Decoded :=
      if x.isInf then ⟨[9], 1000⟩
      else if x == 0 then ⟨[0], 1⟩
      else decode (if negative then -x else x) round (if f.altered then 26 else 16)
    let sign : Option Char := if negative then some '-' else f.plus
    let exp := d.point - 1
    let precision : Nat := if f.style == .general && precision > 0 then precision - 1 else precision
    let (style, precision, trimZeros) :=
      if f.style == .general then
        if exp < -4 || exp > (precision : Int) then (RealStyle.exponent, precision, !f.alternate)
        else (RealStyle.fixed, (precision - exp).toNat, !f.alternate)
      else (f.style, precision, f.altered)
    let e2 : Int := if style == .exponent then 0 else d.point - 1
    let showPoint := precision > 0 || f.alternate || f.altered
    let whole : List Char :=
      if e2 < 0 then ['0'] else wholeDigits d.digits f.thousands (e2.toNat + 1)
    let rest := d.digits.drop (if e2 < 0 then 0 else e2.toNat + 1)
    let leadingZeros := if e2 + 1 < 0 then min (-(e2 + 1)).toNat precision else 0
    let fraction : List Char :=
      List.replicate leadingZeros '0' ++
        (List.range (precision - leadingZeros)).map fun k => Char.ofNat (48 + rest.getD k 0)
    let body := whole ++ (if showPoint then '.' :: fraction else fraction)
    let body :=
      if trimZeros && showPoint then
        let t := (body.reverse.dropWhile (· == '0')).reverse
        if t.getLast? == some '.' then (if f.altered then t ++ ['0'] else t.dropLast) else t
      else body
    let suffix := if style == .exponent then exponentSuffix (if f.upper then 'E' else 'e') exp else ""
    (sign.map String.singleton).getD "" ++ String.ofList body ++ suffix

/-- A real as the engine writes it as text: fifteen significant digits,
trailing zeros dropped but one digit kept after the point, and an exponent
below `1e-4` or from `1e15`. -/
def realText (x : Float) : String :=
  renderReal x { style := .general, precision := 15, altered := true }

/-- The significand and the power of ten of decimal digits: the digits before
the point are collected until the significand passes about `1.8e18`, the
rest counting as powers of ten; the digits after the point are collected while
it is below that bound. -/
def significandOf (whole frac : List Nat) : Nat × Int :=
  let bound := 1844674407370955160
  let (s, d, _) := whole.foldl (fun (s, d, full) k =>
    if full then (s, d + 1, true)
    else
      let s := s * 10 + k
      (s, d, s ≥ bound)) ((0 : Nat), (0 : Int), false)
  frac.foldl (fun (s, d) k => if s < bound then (s * 10 + k, d - 1) else (s, d)) (s, d)

/-- Moves powers of ten into the significand while it stays below about
`1.8e18`, and trailing zeros of the significand out into the power. -/
def normalizeSignificand (s : Nat) (e : Int) : Nat × Int :=
  let (s, e) := up (e.toNat + 1) s e
  down (s + 1) s e
where
  up : Nat → Nat → Int → Nat × Int
    | 0, s, e => (s, e)
    | n + 1, s, e => if e > 0 && s < 1844674407370955161 then up n (s * 10) (e - 1) else (s, e)
  down : Nat → Nat → Int → Nat × Int
    | 0, s, e => (s, e)
    | n + 1, s, e => if e < 0 && s % 10 == 0 then down n (s / 10) (e + 1) else (s, e)

/-- The real that decimal digits read as: `whole.frac × 10^exponent` with a
sign. -/
def readReal (negative : Bool) (whole frac : List Nat) (exponent : Int) : Float :=
  let (s, d) := significandOf whole frac
  if s == 0 then (if negative then -0.0 else 0.0)
  else
    let (s, e) := normalizeSignificand s (exponent + d)
    let magnitude : Float :=
      if e == 0 then Float.ofNat s
      else
        let n := e.natAbs
        let top := Float.ofNat s
        let s2 := wholePart top
        let r : DoubleDouble := ⟨top, if s ≥ s2 then Float.ofNat (s - s2) else -(Float.ofNat (s2 - s))⟩
        let r :=
          if e > 0 then
            mulTimes 1.0e+01 0 (n % 10) (mulTimes 1.0e+10 0 (n % 100 / 10)
              (mulTimes 1.0e+100 (-1.5902891109759918046e+83) (n / 100) r))
          else
            mulTimes 1.0e-01 (-5.5511151231257827021e-18) (n % 10)
              (mulTimes 1.0e-10 (-3.6432197315497741579e-27) (n % 100 / 10)
                (mulTimes 1.0e-100 (-1.99918998026028836196e-117) (n / 100) r))
        let sum := r.hi + r.lo
        if sum.isNaN then Float.ofScientific 1 false 400 else sum
    if negative then -magnitude else magnitude

/-- The exponent digits of a number as the reader keeps them: past 10000 it
stops counting. -/
def cappedExponent (ds : List Nat) : Nat :=
  ds.foldl (fun e k => if e < 10000 then e * 10 + k else 10000) 0

end Timeline.Sql
