import Timeline.Number.Shortest
/-!
# The integer part of a floating-point value

`integerPart` reads the integer part of a finite value off its bits: the value
is `m * 2^q`, so the integer part is `m * 2^q` or `m / 2^-q`, rounded toward
zero, with the sign of the value.
-/

namespace Timeline.Number

/-- The integer part of a finite value, rounded toward zero. -/
def integerPart (x : Float) : Int :=
  let b := Binary.ofBits x.toBits
  let magnitude := if b.q ≥ 0 then b.m * Nat.pow 2 b.q.toNat else b.m / Nat.pow 2 (-b.q).toNat
  if x.toBits >>> 63 == 1 then -(magnitude : Int) else magnitude

end Timeline.Number
