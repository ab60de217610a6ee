import Statechart.Handler
import Statechart.State
import Statechart.Transition.Basic

/-!
# The journal of a machine

Everything that happens in a machine is noted in its journal: the messages it is sent, what
becomes of them, each piece of model code it calls, each state it moves into. What an observer
gets to see of a run can be read off its journal.
-/

namespace Statechart

/-- A state that may be missing, in writing. -/
def writtenOption {S : Type} (name : S → String) : Option S → String
  | some state => "Some(" ++ name state ++ ")"
  | none => "None"

/-- What listeners are told. -/
inductive Notice (S E : Type) where
  | exited (state : S)
  | changed (source : Option S) (target : S)
  | entered (state : S)
  | notAccepted (message : Message E)
  | deferred (message : Message E)

/-- A piece of model code that is called. A listener is known by its place in the order of
registration. -/
inductive Call (S E V L : Type) where
  | trigger (transition : Transition S E V L) (payload : E)
  | guard (transition : Transition S E V L)
  | effect (transition : Transition S E V L) (action : Action S E V L)
  | exit (state : State S E V L) (action : Action S E V L)
  | entry (state : State S E V L) (action : Action S E V L)
  | handler (source target : S) (handler : Handler S E V L)
  | listener (position : Nat) (listener : L) (notice : Notice S E)

/-- The circumstances of a call: the message it is made for, if any, the current state, whether a
worker is busy, and the variables. -/
structure Scene (S E V L : Type) where
  origin : Option (Message E)
  current : Option (State S E V L)
  busy : Bool
  vars : V

/-- What becomes of a message when it is matched against the current state. -/
inductive Verdict where
  | accepted
  | declined
  | deferred
  | unmatched
  deriving DecidableEq

/-- Whether a message is done with after the verdict. -/
def Verdict.settles : Verdict → Bool
  | .accepted | .declined => true
  | .deferred | .unmatched => false

/-- One thing that happens in a machine. -/
inductive Entry (S E V L : Type) where
  /-- A message joins the queue. -/
  | submitted (message : Message E)
  /-- A listener is registered, as the one at the given position. -/
  | listening (position : Nat) (listener : L)
  /-- A start is refused. -/
  | startRefused
  /-- The machine starts, with the given initial state. -/
  | starting (initial : S)
  /-- A task is handed out. -/
  | taskHanded
  /-- A task is dropped without being run. -/
  | taskDropped
  /-- The queue, of the given length, begins to be processed. -/
  | drainBegan (pending : Nat)
  /-- A message is taken from the queue. -/
  | took (message : Message E)
  /-- A message is put off. -/
  | deferring (message : Message E)
  /-- The deferred messages, of the given number, begin to be tried again. -/
  | retryBegan (deferred : Nat)
  /-- A deferred message is tried again. -/
  | retrying (message : Message E)
  /-- A message was matched against the current state. -/
  | matched (message : Message E) (verdict : Verdict)
  /-- A message is done with. -/
  | resolved (message : Message E) (verdict : Verdict)
  /-- A piece of model code is called. -/
  | called (call : Call S E V L) (scene : Scene S E V L)
  /-- The piece of model code that was called last panics. -/
  | panicked (text : String)
  /-- A transition was accepted: its guard has passed and its actions have been run. -/
  | accepted (transition : Transition S E V L) (origin : Option (Message E))
  /-- The guard of the transition that a message fired has not passed. -/
  | guardRejected (state : S) (message : Message E)
  /-- A move begins. -/
  | moving (source : Option S) (target : S)
  /-- The listeners of this moment begin to be told a notice. -/
  | notifying (notice : Notice S E)
  /-- The handlers of a move have been run. -/
  | handlersCompleted (source target : S) (results : List Value)
  /-- The target of a move has become the current state. -/
  | committed (state : S) (origin : Option (Message E))
  /-- A cascade stops before a state that it has entered already. -/
  | cascadeStopped (state : S)
  /-- The target of a transition is not in the model. -/
  | targetMissing (state : S)
  /-- Model code writes a log line. -/
  | wrote (line : Value)

end Statechart
