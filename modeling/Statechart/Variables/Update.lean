import Statechart.Value.Basic

/-!
# Updates of a variable

An update computes the next value of a variable from the one it has, if it has one.
-/

namespace Statechart

/-- A way to compute the next value of a variable. -/
inductive Update where
  /-- Counts up from the number that the variable is, or from zero. -/
  | increment
  /-- Keeps the value it had. -/
  | remember
  /-- Appends to the array that the variable is, or to none. -/
  | push (value : Value)
  /-- Panics. -/
  | panic

/-- The panic of an update. -/
def Update.panicText : String := "update panicked"

/-- The next value of a variable, or none if the update panics. -/
def Update.next? (update : Update) (old : Option Value) : Option Value :=
  match update with
  | .increment =>
    let count := match old.bind Value.int? with
      | some n => if wordRange.1 ≤ n ∧ n ≤ wordRange.2 then n else 0
      | none => 0
    some (.int (min (count + 1) wordRange.2))
  | .remember => some (.object [("old", Value.orNull old)])
  | .push value => some (.array ((old.bind Value.items?).getD [] ++ [value]))
  | .panic => none

end Statechart
