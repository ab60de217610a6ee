/-!
# Placement of tasks

A machine does its work in tasks, which it hands out. Where and when a task is run is not for the
machine to say: each task is placed in one of a few ways.
-/

namespace Statechart

/-- What is done with a task that is handed out. -/
inductive Placement where
  /-- It is run at once, by the one who hands it out. -/
  | inline
  /-- It is run on a thread of its own, of the given name, and is over before anything else
  happens. A panic ends only the thread. -/
  | background (thread : String)
  /-- It is kept, to be run later. -/
  | hold
  /-- It is dropped without being run. -/
  | drop
  /-- It is dropped, and the one who hands it out panics. -/
  | panic
  deriving DecidableEq

namespace Placement

/-- The name of the thread of tasks in the background, unless they are given another one. -/
def workerThread : String := "statework-worker"

/-- The placement on the threads of the runtime at hand, by the name of its threads. Outside of a
runtime there is none. -/
def current? (runtime : Option String) : Option Placement := runtime.map .background

/-- The `n`-th placement of a plan; when the plan is over the same placement stays. -/
def ofPlan (plan : List Placement) (rest : Placement) (n : Nat) : Placement := plan.getD n rest

/-- What tasks do to a state if they are handed out one after the other. -/
def runAll {σ : Type} (placement : Placement) (tasks : List (σ → σ)) (state : σ) : σ :=
  match placement with
  | .inline | .background _ => tasks.foldl (fun state task => task state) state
  | .hold | .drop | .panic => state

end Placement

end Statechart
