import Statechart.Decimal.Whole

/-!
# Reading decimal numbers

The digits of a number in data are gathered into a whole number of 64 bits; the digits that find
no room in it only move the point. The whole number is then scaled by a power of ten in one
rounded operation. For numbers of up to fifteen digits this is the nearest float.
-/

namespace Statechart.Decimal

/-- The room for digits: whole numbers below this one, which is two to the power of 64. -/
def wordLimit : Nat := 18446744073709551616

/-- Appends digits to a whole number as long as they find room, and returns those left over. -/
def absorb (acc : Nat) : List Char → Nat × List Char
  | [] => (acc, [])
  | d :: ds =>
    let next := acc * 10 + digitValue d
    if next < wordLimit then absorb next ds else (acc, d :: ds)

/-- Scales by a power of ten. Exponents beyond the largest power of ten that is a float are taken
off in steps, which ends at zero or out of range after a few of them. -/
def scaleFrom : Nat → Float → Int → Option Float
  | 0, _, _ => none
  | steps + 1, x, exponent =>
    if exponent.natAbs ≤ 308 then
      let power := Float.ofScientific 1 false exponent.natAbs
      if 0 ≤ exponent then
        let scaled := x * power
        if scaled.isInf then none else some scaled
      else some (x / power)
    else if x == 0.0 then some x
    else if 0 ≤ exponent then none
    else scaleFrom steps (x / 1e308) (exponent + 308)

/-- The float `± digits * 10 ^ exponent`, if it is in range. -/
def scaled? (negative : Bool) (digits : Nat) (exponent : Int) : Option Float :=
  (scaleFrom 4 (Float.ofNat digits) exponent).map fun x => if negative then -x else x

end Statechart.Decimal
