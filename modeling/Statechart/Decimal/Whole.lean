/-!
# Whole numbers in writing

A whole number is written in decimal digits, with or without a sign before them. Zeros before the
first other digit do not matter.
-/

namespace Statechart.Decimal

/-- The value of a decimal digit. -/
def digitValue (c : Char) : Nat := c.toNat - '0'.toNat

/-- The value of a run of digits. -/
def natOfDigits (ds : List Char) : Nat := ds.foldl (fun acc d => acc * 10 + digitValue d) 0

/-- The value of a text that consists of digits. -/
def nat? (text : List Char) : Option Nat :=
  if !text.isEmpty && text.all Char.isDigit then some (natOfDigits text) else none

/-- The whole number that a text consists of. -/
def whole? : List Char → Option Int
  | '-' :: digits => (nat? digits).map fun n => -(n : Int)
  | '+' :: digits => (nat? digits).map Int.ofNat
  | digits => (nat? digits).map Int.ofNat

/-- The whole number in a range that a text consists of. Any other text stands for zero. -/
def wholeWithin (range : Int × Int) (text : String) : Int :=
  match whole? text.toList with
  | some n => if range.1 ≤ n ∧ n ≤ range.2 then n else 0
  | none => 0

theorem wholeWithin_mem {range : Int × Int} (low : range.1 ≤ 0) (high : 0 ≤ range.2)
    (text : String) : range.1 ≤ wholeWithin range text ∧ wholeWithin range text ≤ range.2 := by
  unfold wholeWithin
  split
  · split
    · assumption
    · exact ⟨low, high⟩
  · exact ⟨low, high⟩

end Statechart.Decimal
