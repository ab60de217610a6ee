import Statechart.Machine.Worker

/-!
# Steps of a run

A machine is driven in steps: it is started, an event is sent, a task that was held is run or
dropped, a listener is registered. A panic ends its step; later steps go on from what was left.
-/

namespace Statechart

/-- A step of a run. -/
inductive Step (E L : Type) where
  | start
  | send (payload : E) (headers : Fields)
  | runHeld
  | dropHeld
  | listen (listener : L)

/-- What came of a step that did not panic. -/
inductive StepResult where
  | done
  | start (outcome : StartOutcome)
  | ran
  | dropped
  | nothingHeld
  deriving DecidableEq

namespace Machine

variable {S E V L : Type} [DecidableEq S] [DecidableEq E]

/-- Takes up a held task. -/
def takeHeld (work : Work S E V L Unit) (result : StepResult) : Work S E V L StepResult := do
  let machine ← get
  if machine.held = 0 then return .nothingHeld
  set { machine with held := machine.held - 1 }
  work
  return result

/-- The work of a step. -/
def perform (setup : Setup S E V L) (fuel : Nat) : Step E L → Work S E V L StepResult :=
  let reentry := reentryAt setup fuel 1
  fun
  | .start => .start <$> start setup reentry fuel
  | .send payload headers => do
    submit setup reentry fuel payload headers
    return .done
  | .runHeld => takeHeld (runWorker setup reentry fuel) .ran
  | .dropHeld => takeHeld dropTask .dropped
  | .listen listener => do
    register listener
    return .done

/-- Performs a step. -/
def step (setup : Setup S E V L) (fuel : Nat) (machine : Machine S E V L) (action : Step E L) :
    Except Stop StepResult × Machine S E V L :=
  ((perform setup fuel action).run).run machine

/-- Performs steps one after the other. -/
def run (setup : Setup S E V L) (fuel : Nat) (machine : Machine S E V L)
    (steps : List (Step E L)) : Machine S E V L :=
  steps.foldl (fun machine action => (step setup fuel machine action).2) machine

end Machine

end Statechart
