/-!
# Decimal numerals

Integers are written in base ten with a leading minus sign when negative.
`padded w n` writes a natural number with at least `w` digits, adding zeros
in front; `signedPadded` does the same for an integer whose sign takes one of
the `w` places, as the width of a formatted field counts it.
-/

namespace Timeline.Text

/-- The decimal digits of a natural number, without leading zeros. -/
def natDigits (n : Nat) : List Char :=
  Nat.toDigits 10 n

/-- The decimal numeral of an integer. -/
def decimal (n : Int) : String :=
  if n < 0 then String.ofList ('-' :: natDigits n.natAbs) else String.ofList (natDigits n.natAbs)

/-- The decimal numeral of `n` with zeros in front up to `width` digits. -/
def padded (width n : Nat) : String :=
  let ds := natDigits n
  String.ofList (List.replicate (width - ds.length) '0' ++ ds)

/-- A zero-padded field of `width` places whose sign, when negative, takes the first place. -/
def signedPadded (width : Nat) (n : Int) : String :=
  if n < 0 then "-" ++ padded (width - 1) n.natAbs else padded width n.natAbs

end Timeline.Text
