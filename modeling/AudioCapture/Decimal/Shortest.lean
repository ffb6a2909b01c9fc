/-!
# Shortest decimals

The fewest decimal digits that read back as a given binary64 number, and among the decimals of
that length the one nearest to it. A finite number is `significand * 2 ^ power`; the decimals
that read back as it lie between its halves of the way to both neighbours, ends included when the
significand is even. On each decimal grid only the two points beside the number need a look.
-/

namespace AudioCapture.Decimal

/-- A decimal `d₁.d₂d₃… * 10 ^ exponent`, with the digits as one number. -/
structure Scientific where
  digits : Nat
  exponent : Int
  deriving DecidableEq, Repr

/-- A positive number as a quotient, with the bounds of what reads back as it, over one
denominator. -/
structure Neighbourhood where
  low : Nat
  value : Nat
  high : Nat
  denominator : Nat
  closed : Bool
  deriving Repr

/-- The neighbourhood of a positive finite number with the given bits, the sign aside. -/
def neighbourhood (bits : Nat) : Neighbourhood :=
  let field : Nat := bits / 4503599627370496 % 2048
  let fraction : Nat := bits % 4503599627370496
  let significand : Nat := if field = 0 then fraction else 4503599627370496 + fraction
  let power : Int := (if field = 0 then 1 else (field : Int)) - 1075 - 2
  let below : Nat := if fraction = 0 && 1 < field then 1 else 2
  let up : Nat := Nat.pow 2 power.toNat
  { low := (4 * significand - below) * up
    value := 4 * significand * up
    high := (4 * significand + 2) * up
    denominator := Nat.pow 2 (-power).toNat
    closed := significand % 2 == 0 }

namespace Neighbourhood

/-- Whether `point * 10 ^ power` reads back as the number. -/
def holds (n : Neighbourhood) (point : Nat) (power : Int) : Bool :=
  let scaled := point * Nat.pow 10 power.toNat * n.denominator
  let low := n.low * Nat.pow 10 (-power).toNat
  let high := n.high * Nat.pow 10 (-power).toNat
  if n.closed then low ≤ scaled && scaled ≤ high else low < scaled && scaled < high

/-- A power of ten below the number, by at most a few places. -/
def estimate (n : Neighbourhood) : Int :=
  if n.denominator ≤ n.value then
    ((n.value / n.denominator).log2 * 30103 / 100000 : Nat) - 1
  else -((n.denominator / n.value).log2 * 30103 / 100000 + 3 : Nat)

/-- The largest grid point `point * 10 ^ power` not above the number. -/
def floorOn (n : Neighbourhood) (power : Int) : Nat :=
  n.value * Nat.pow 10 (-power).toNat / (n.denominator * Nat.pow 10 power.toNat)

/-- Whether the grid point above is nearer than the one below, a tie going to the even one. -/
def nearerAbove (n : Neighbourhood) (power : Int) : Bool :=
  let unit := n.denominator * Nat.pow 10 power.toNat
  let rest := n.value * Nat.pow 10 (-power).toNat % unit
  unit < 2 * rest || (unit == 2 * rest && n.floorOn power % 2 == 1)

/-- The power of ten of the first digit, going up from an exponent that is too low. -/
def leading (n : Neighbourhood) : Nat → Int → Int
  | 0, exponent => exponent
  | tries + 1, exponent =>
      if n.floorOn (exponent + 1) = 0 then exponent else leading n tries (exponent + 1)

/-- The first grid, from coarse to fine, with a point that reads back. The point above may be
the next power of ten. -/
def search (n : Neighbourhood) (exponent : Int) : Nat → Nat → Scientific
  | 0, places => ⟨n.floorOn (exponent - places), exponent⟩
  | tries + 1, places =>
      let power := exponent - places
      let below := n.floorOn power
      let above := below + 1
      if n.holds below power && !(n.holds above power && n.nearerAbove power) then
        ⟨below, exponent⟩
      else if n.holds above power then
        ⟨above, if above = Nat.pow 10 (places + 1) then exponent + 1 else exponent⟩
      else search n exponent tries (places + 1)

end Neighbourhood

/-- The digits of a number without the zeros it ends with. -/
def significantDigits (n : Nat) : List Char :=
  ((Nat.toDigits 10 n).reverse.dropWhile (· == '0')).reverse

/-- The shortest decimal of the positive finite number with the given bits. -/
def shortest (bits : Nat) : Scientific :=
  let n := neighbourhood bits
  n.search (n.leading 8 n.estimate) 17 0

end AudioCapture.Decimal
