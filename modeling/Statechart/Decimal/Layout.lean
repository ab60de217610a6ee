import Statechart.Decimal.Shortest

/-!
# Layouts of decimal numbers

A number is laid out from its shortest decimal, with a point in its place or in scientific form.
A layout says which places of the point are written out.
-/

namespace Statechart.Decimal

/-- The choice between the positional and the scientific form. The place of the point is counted
from the left end of the digits; places from `lowest` to `highest` are written out. -/
structure Layout where
  lowest : Int
  highest : Int

/-- Whether a point at this place is written out. -/
def Layout.writesOut (layout : Layout) (place : Int) : Bool :=
  layout.lowest ≤ place && place ≤ layout.highest

/-- The layout of numbers in data: from five zeros after the point on, and beyond sixteen digits
before it, the scientific form is shorter to read. -/
def compactLayout : Layout := ⟨-4, 16⟩

/-- Digits with a point at the given place. A whole number keeps one zero after the point. -/
def withPoint (digits : String) (place : Int) : String :=
  let zeros := fun (n : Int) => "".pushn '0' n.toNat
  let length : Int := digits.length
  if place ≤ 0 then "0." ++ zeros (-place) ++ digits
  else if length ≤ place then digits ++ zeros (place - length) ++ ".0"
  else (digits.take place.toNat).toString ++ "." ++ (digits.drop place.toNat).toString

/-- Digits in scientific form, with one digit before the point. The exponent has a sign. -/
def withExponent (digits : String) (place : Int) : String :=
  let fraction := (digits.drop 1).toString
  let exponent := place - 1
  (digits.take 1).toString ++ (if fraction.isEmpty then "" else "." ++ fraction)
    ++ "e" ++ (if 0 ≤ exponent then "+" else "") ++ toString exponent

/-- A decimal in the given layout. -/
def Layout.write (layout : Layout) (decimal : Scaled) : String :=
  let digits := toString decimal.digits
  let place := (digits.length : Int) + decimal.exponent
  if layout.writesOut place then withPoint digits place else withExponent digits place

/-- A float in the given layout, if it is finite. Zeros keep their sign. -/
def Layout.float? (layout : Layout) (x : Float) : Option String :=
  if x.isFinite then
    let bits := x.toBits
    let sign := if isNegative bits then "-" else ""
    let magnitude := Dyadic.ofBits bits
    if magnitude.mantissa = 0 then some (sign ++ "0.0")
    else some (sign ++ layout.write (shortest magnitude))
  else none

end Statechart.Decimal
