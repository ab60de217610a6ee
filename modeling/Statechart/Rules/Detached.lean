import Statechart.Rules.Meaning

/-!
# Code without a machine

A piece of model code can be tried on its own, on variables that nobody else uses. There is no
machine then: events are not taken, a start has no outcome, and listeners are not registered.
-/

namespace Statechart

/-- The variables that a piece of code is tried on, and its log with the latest line first. -/
structure Bench where
  workspace : Workspace
  log : List Value

namespace Bench

/-- A bench with the given variables and budget. -/
def ofVariables (vars : Fields) (budget : Int) : Bench := ⟨⟨vars, budget⟩, []⟩

/-- The log in the order of its lines. -/
def lines (bench : Bench) : List Value := bench.log.reverse

/-- Answers a request. -/
def answer : (request : Request Label Label Workspace Observer) →
    ExceptT String (StateM Bench) request.Reply
  | .load => return (← get).workspace
  | .store workspace => modify fun bench => { bench with workspace := workspace }
  | .write line => modify fun bench => { bench with log := line :: bench.log }
  | .send _ _ => return false
  | .start => return none
  | .listen _ => return
  | .look => return ⟨"main", none⟩

/-- Tries a script: its result or the text of its panic, and the bench afterwards. -/
def run {α : Type} (script : RuleScript α) (bench : Bench) : Except String α × Bench :=
  ((script.interpret answer throw).run).run bench

end Bench

end Statechart
