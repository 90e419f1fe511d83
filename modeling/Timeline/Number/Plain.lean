import Timeline.Number.Shortest
/-!
# Plain decimal text of floating-point values

`Float.plainText` writes a binary64 value with the digits of its shortest
decimal and never with an exponent: `1e21` is written with twenty-one zeros,
`1e-7` as `0.0000001`. An integral value has no point (`2`), negative zero keeps
its sign (`-0`), and the special values are written `NaN`, `inf` and `-inf`.
-/

namespace Timeline.Number

/-- The decimal `digits * 10^exp` written out with a point where needed. -/
def Dec.plain (d : Dec) : String :=
  let ds := Nat.toDigits 10 d.digits
  if d.exp ≥ 0 then
    String.ofList (ds ++ List.replicate d.exp.toNat '0')
  else
    let point : Int := ds.length + d.exp
    if point > 0 then
      String.ofList (ds.take point.toNat ++ '.' :: ds.drop point.toNat)
    else
      String.ofList ('0' :: '.' :: List.replicate (-point).toNat '0' ++ ds)

/-- The sign bit of a value. -/
def signBit (x : Float) : Bool :=
  x.toBits >>> 63 == 1

/-- A floating-point value in plain decimal notation. -/
def plainText (x : Float) : String :=
  if x.isNaN then "NaN"
  else if x.isInf then (if x > 0 then "inf" else "-inf")
  else
    let b := Binary.ofBits x.toBits
    let body := if b.m == 0 then "0" else b.shortest.plain
    if signBit x then "-" ++ body else body

end Timeline.Number
