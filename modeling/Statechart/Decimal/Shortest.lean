/-!
# Shortest decimals

The decimal that stands for a finite binary64: of all decimals that are rounded back to it, one
with the fewest digits, and of those the nearest. The search is carried out in exact natural
arithmetic on the interval of reals that are rounded to the number.
-/

namespace Statechart.Decimal

/-- A positive magnitude `mantissa * 2 ^ exponent` on the binary64 grid. Right at a power of two
the neighbour below is only half as far away as the neighbour above: `tightBelow`. -/
structure Dyadic where
  mantissa : Nat
  exponent : Int
  tightBelow : Bool

/-- The number of fractions that a bit pattern can have: two to the power of 52. -/
def fractions : Nat := 4503599627370496

/-- The number of exponents that a bit pattern can have: two to the power of 11. -/
def exponents : Nat := 2048

/-- The magnitude of a finite float, read from its bit pattern. -/
def Dyadic.ofBits (bits : UInt64) : Dyadic :=
  let fraction : Nat := bits.toNat % fractions
  let field : Nat := bits.toNat / fractions % exponents
  if field = 0 then ⟨fraction, -1074, false⟩
  else ⟨fraction + fractions, (field : Int) - 1075, decide (fraction = 0 ∧ 1 < field)⟩

/-- Whether a bit pattern has the sign of the numbers below zero. -/
def isNegative (bits : UInt64) : Bool := bits.toNat / fractions / exponents = 1

/-- The decimal magnitude `digits * 10 ^ exponent`. -/
structure Scaled where
  digits : Nat
  exponent : Int
  deriving DecidableEq, Repr

/-- A power with an integer exponent as a numerator and a denominator. -/
def ratio (base : Nat) (exponent : Int) : Nat × Nat :=
  if 0 ≤ exponent then (base.pow exponent.toNat, 1) else (1, base.pow (-exponent).toNat)

/-- The point of the grid of multiples of `10 ^ exponent` that lies nearest to `x` among those
that are rounded to `x`. It is one of the two neighbours of `x` on the grid. Quarters of a binary
unit are the common measure: the interval of `x` ends two of them above and two (or one) below,
its ends included if the mantissa is even. -/
def gridPoint (x : Dyadic) (exponent : Int) : Option Nat :=
  let quarter := ratio 2 (x.exponent - 2)
  let step := ratio 10 exponent
  let grid := step.1 * quarter.2
  let unit := quarter.1 * step.2
  let centre := 4 * x.mantissa * unit
  let low := (4 * x.mantissa - if x.tightBelow then 1 else 2) * unit
  let high := (4 * x.mantissa + 2) * unit
  let inside := fun (n : Nat) =>
    if x.mantissa % 2 = 0 then low ≤ n * grid && n * grid ≤ high
    else low < n * grid && n * grid < high
  let n := centre / grid
  if inside n then
    if inside (n + 1) then
      let below := centre - n * grid
      let above := (n + 1) * grid - centre
      if below < above || (below = above && n % 2 = 0) then some n else some (n + 1)
    else some n
  else if inside (n + 1) then some (n + 1)
  else none

/-- A power of ten above the magnitude, found from the length of its binary form; the fraction
`30103 / 100000` is a little more than the logarithm of two. -/
def Dyadic.decimalBound (x : Dyadic) : Int :=
  Int.fdiv (((Nat.log2 x.mantissa : Int) + 1 + x.exponent) * 30103) 100000 + 1

/-- The shortest decimal of a positive magnitude: the first hit on grids of growing fineness.
Seventeen digits always suffice, so the finer grids of the range are never needed. -/
def shortest (x : Dyadic) : Scaled :=
  let grids := (List.range 22).map fun (i : Nat) => x.decimalBound - (i : Int)
  (grids.findSome? fun e => (gridPoint x e).map (Scaled.mk · e)).getD ⟨0, 0⟩

end Statechart.Decimal
