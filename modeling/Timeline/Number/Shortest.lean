/-!
# Shortest decimals of binary64 values

A finite binary64 value stands for the interval of reals that round to it:
from halfway to the value below to halfway to the value above, the ends
included exactly when the significand is even. `Binary.shortest` selects the
decimal of fewest significant digits in that interval and, of two such
decimals, the one closer to the value; an exact tie goes to the larger. Reading
that decimal back gives the value again, and no decimal with fewer digits does.

The search tries grids of 1, 2, … 17 significant digits. On each grid only the
two neighbours of the value can lie in the interval first, so those two are
tested, by exact arithmetic on natural numbers.
-/

namespace Timeline.Number

/-- A finite non-negative binary64 value, `m * 2^q`. -/
structure Binary where
  m : Nat
  q : Int
  /-- The gap to the value below is half the gap to the value above. -/
  narrowBelow : Bool
  deriving DecidableEq, Repr

/-- The magnitude of a finite value from its bits; the sign bit is ignored. -/
def Binary.ofBits (b : UInt64) : Binary :=
  let e := ((b >>> 52) &&& 0x7FF).toNat
  let f := (b &&& 0xFFFFFFFFFFFFF).toNat
  if e == 0 then ⟨f, -1074, false⟩ else ⟨Nat.pow 2 52 + f, (e : Int) - 1075, f == 0 && e > 1⟩

/-- A decimal `digits * 10^exp`. -/
structure Dec where
  digits : Nat
  exp : Int
  deriving DecidableEq, Repr

/-- Compares `a * 10^i` with `n * 2^j`, exactly. -/
def cmpScaled (a : Nat) (i : Int) (n : Nat) (j : Int) : Ordering :=
  compare (a * Nat.pow 10 i.toNat * Nat.pow 2 (-j).toNat) (n * Nat.pow 2 j.toNat * Nat.pow 10 (-i).toNat)

/-- A decimal lies among the reals that round to the value (to nearest, ties to even). -/
def Binary.readsBack (x : Binary) (d : Dec) : Bool :=
  let lo := if x.narrowBelow then 4 * x.m - 1 else 4 * x.m - 2
  let hi := 4 * x.m + 2
  let incl := x.m % 2 == 0
  let cl := cmpScaled d.digits d.exp lo (x.q - 2)
  let ch := cmpScaled d.digits d.exp hi (x.q - 2)
  (cl == .gt || (incl && cl == .eq)) && (ch == .lt || (incl && ch == .eq))

/-- The value lies below `10^k`. -/
def Binary.below (x : Binary) (k : Int) : Bool :=
  cmpScaled 1 k x.m x.q == .gt

/-- The least `k` with the value below `10^k`, for a non-zero value: an
estimate from the binary length, corrected by exact comparisons. -/
def Binary.scale (x : Binary) : Int :=
  let estimate := ((Nat.log2 x.m + 1 : Nat) + x.q) * 30103 / 100000
  let window := (List.range 7).map fun (i : Nat) => estimate - 3 + (i : Int)
  (window.find? x.below).getD estimate

/-- The greatest multiple of `10^g`, as a count of `10^g`, that does not exceed the value. -/
def Binary.floorOnGrid (x : Binary) (g : Int) : Nat :=
  (x.m * Nat.pow 2 x.q.toNat * Nat.pow 10 (-g).toNat) / (Nat.pow 2 (-x.q).toNat * Nat.pow 10 g.toNat)

/-- Of the two neighbours of the value on the grid `10^g`, the one that reads
back, the closer one if both do, the upper one on a tie. -/
def Binary.onGrid (x : Binary) (g : Int) : Option Dec :=
  let lo : Dec := ⟨x.floorOnGrid g, g⟩
  let hi : Dec := ⟨x.floorOnGrid g + 1, g⟩
  match x.readsBack lo, x.readsBack hi with
  | true, true =>
    if cmpScaled (2 * lo.digits + 1) g x.m (x.q + 1) == .gt then some lo else some hi
  | true, false => some lo
  | false, true => some hi
  | false, false => none

/-- Moves trailing zeros of the digits into the exponent. -/
def Dec.strip (d : Dec) : Dec :=
  if h : d.digits ≠ 0 ∧ d.digits % 10 = 0 then
    Dec.strip ⟨d.digits / 10, d.exp + 1⟩
  else d
termination_by d.digits
decreasing_by exact Nat.div_lt_self (Nat.pos_of_ne_zero h.1) (by decide)

/-- The exact decimal value of `m * 2^q`. -/
def Binary.exact (x : Binary) : Dec :=
  if x.q ≥ 0 then ⟨x.m * Nat.pow 2 x.q.toNat, 0⟩ else ⟨x.m * Nat.pow 5 (-x.q).toNat, x.q⟩

/-- The shortest decimal that reads back as a non-zero value. -/
def Binary.shortest (x : Binary) : Dec :=
  let k := x.scale
  let found := (List.range 17).findSome? fun n => x.onGrid (k - (n + 1 : Nat))
  (found.getD x.exact).strip

end Timeline.Number
