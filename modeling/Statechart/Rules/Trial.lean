import Statechart.Rules.Detached

/-!
# Trials

Parts of a model are tried on their own, without a machine: a transition on payloads and in
several contexts, a state by running its entry and exit actions, handlers one after the other. A
panic ends one try; the next one goes on from what was left.
-/

namespace Statechart

/-- The header values and the variables that a piece of code is tried with. -/
structure Stand where
  headers : Fields
  vars : Fields

/-- A stand with nothing on it. -/
def Stand.empty : Stand := ⟨[], []⟩

/-- The context of a stand. -/
def Stand.context (stand : Stand) : Context Label := ⟨none, stand.headers⟩

/-- What came of a try: its outcome, its log and the variables afterwards. -/
structure Trial (α : Type) where
  outcome : α
  log : List Value
  vars : Fields

namespace Bench

/-- Tries scripts one after the other. -/
def runEach {α : Type} : List (RuleScript α) → Bench → List (Except String α) × Bench
  | [], bench => ([], bench)
  | script :: scripts, bench =>
    let (outcome, bench) := bench.run script
    let (outcomes, bench) := bench.runEach scripts
    (outcome :: outcomes, bench)

end Bench

/-- Carries out tries on one stand after the other, within one budget. -/
def Trial.onEach {α : Type} (tries : Stand → Bench → α × Bench) : Int → List Stand → List (Trial α)
  | _, [] => []
  | budget, stand :: stands =>
    let (outcome, bench) := tries stand (Bench.ofVariables stand.vars budget)
    ⟨outcome, bench.lines, bench.workspace.vars⟩
      :: Trial.onEach tries bench.workspace.budget stands

/-- How a transition takes a payload: whether it responds to it, and what its trigger says, if it
has one. -/
structure PayloadTrial where
  payload : Label
  responds : Except String Bool
  trigger : Option (Except String Bool)

/-- Tries a transition on payloads. -/
def Transition.tryPayloads (transition : Transition Label Label Workspace Observer) :
    List Label → Bench → List PayloadTrial × Bench
  | [], bench => ([], bench)
  | payload :: payloads, bench =>
    let (responds, bench) := bench.run (transition.responds payload)
    let (trigger, bench) := match transition.trigger with
      | none => (none, bench)
      | some trigger =>
        let (outcome, bench) := bench.run (trigger payload)
        (some outcome, bench)
    let (rest, bench) := transition.tryPayloads payloads bench
    (⟨payload, responds, trigger⟩ :: rest, bench)

/-- Tries the accept step of a transition on each stand. -/
def Transition.tryTransits (transition : Transition Label Label Workspace Observer)
    (budget : Int) : List Stand → List (Trial (Except String Bool)) :=
  Trial.onEach (fun stand bench => bench.run (transition.transit stand.context)) budget

/-- A visit to a state: the entry actions are run, then the exit actions, with a line in
between. -/
def State.visit (state : State Label Label Workspace Observer) (context : Context Label) :
    RuleScript Unit := do
  state.entry.forM fun action => action context
  Script.report [.string "mid"]
  state.exit.forM fun action => action context

/-- Tries a visit to a state on each stand. -/
def State.tryVisits (state : State Label Label Workspace Observer) (budget : Int) :
    List Stand → List (Trial (Except String Unit)) :=
  Trial.onEach (fun stand bench => bench.run (state.visit stand.context)) budget

/-- Tries the handlers of each lookup, one after the other on its stand. -/
def Handler.tryLookups (budget : Int)
    (lookups : List (List (Handler Label Label Workspace Observer) × Stand)) :
    List (Trial (List (Except String Value))) :=
  match lookups with
  | [] => []
  | (handlers, stand) :: rest =>
    let scripts := handlers.map fun handler => handler.handle stand.context
    let (outcomes, bench) := (Bench.ofVariables stand.vars budget).runEach scripts
    ⟨outcomes, bench.lines, bench.workspace.vars⟩
      :: Handler.tryLookups bench.workspace.budget rest

end Statechart
